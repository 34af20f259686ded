import AlertRelay.Text.Ranges

namespace AlertRelay.Text

def greekRanges : Ranges := ⟨#[
  880, 884, 885, 888, 890, 894, 895, 896, 900, 901, 902, 903, 904, 907, 908, 909, 910, 930, 931,
  994, 1008, 1024, 7462, 7467, 7517, 7522, 7526, 7531, 7615, 7616, 7936, 7958, 7960, 7966, 7968,
  8006, 8008, 8014, 8016, 8024, 8025, 8026, 8027, 8028, 8029, 8030, 8031, 8062, 8064, 8117, 8118,
  8133, 8134, 8148, 8150, 8156, 8157, 8176, 8178, 8181, 8182, 8191, 8486, 8487, 43877, 43878,
  65856, 65935, 65952, 65953, 119296, 119366, 122867, 122868]⟩

def hebrewRanges : Ranges := ⟨#[
  1425, 1482, 1488, 1515, 1519, 1525, 64285, 64311, 64312, 64317, 64318, 64319, 64320, 64322,
  64323, 64325, 64326, 64336]⟩

def hiraganaRanges : Ranges := ⟨#[
  12353, 12439, 12445, 12448, 110593, 110880, 110898, 110899, 110928, 110931, 127488, 127489]⟩

def katakanaRanges : Ranges := ⟨#[
  12449, 12539, 12541, 12544, 12784, 12800, 13008, 13055, 13056, 13144, 65382, 65392, 65393,
  65438, 110576, 110580, 110581, 110588, 110589, 110591, 110592, 110593, 110880, 110883, 110933,
  110934, 110948, 110952]⟩

def hanRanges : Ranges := ⟨#[
  11904, 11930, 11931, 12020, 12032, 12246, 12293, 12294, 12295, 12296, 12321, 12330, 12344,
  12348, 13312, 19904, 19968, 40960, 63744, 64110, 64112, 64218, 94178, 94180, 94192, 94199,
  131072, 173792, 173824, 178207, 178208, 183982, 183984, 191457, 191472, 192094, 194560, 195102,
  196608, 201547, 201552, 210042]⟩

def isGreek (n : Nat) : Bool := greekRanges.contains n

def isHebrew (n : Nat) : Bool := hebrewRanges.contains n

def isJapanese (n : Nat) : Bool :=
  hiraganaRanges.contains n || katakanaRanges.contains n || hanRanges.contains n

end AlertRelay.Text
