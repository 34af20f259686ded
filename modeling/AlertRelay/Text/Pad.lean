namespace AlertRelay.Text

def padLeft (width : Nat) (fill : Char) (cs : List Char) : List Char :=
  List.replicate (width - cs.length) fill ++ cs

def padRight (width : Nat) (fill : Char) (cs : List Char) : List Char :=
  cs ++ List.replicate (width - cs.length) fill

@[simp] theorem length_padLeft (width : Nat) (fill : Char) (cs : List Char) :
    (padLeft width fill cs).length = max width cs.length := by
  simp only [padLeft, List.length_append, List.length_replicate]
  omega

@[simp] theorem length_padRight (width : Nat) (fill : Char) (cs : List Char) :
    (padRight width fill cs).length = max width cs.length := by
  simp only [padRight, List.length_append, List.length_replicate]
  omega

end AlertRelay.Text
