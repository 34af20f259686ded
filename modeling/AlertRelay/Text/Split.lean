namespace AlertRelay.Text

def splitAt (sep : Char) : List Char → List (List Char)
  | [] => [[]]
  | c :: rest =>
    if c == sep then [] :: splitAt sep rest
    else
      match splitAt sep rest with
      | p :: ps => (c :: p) :: ps
      | [] => [[c]]

end AlertRelay.Text
