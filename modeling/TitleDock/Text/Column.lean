/-! Columns of text: a text is filled up with spaces to a width, counted in characters. One that is
longer already stays as it is. -/

namespace TitleDock.Text

def left (width : Nat) (s : String) : String :=
  s ++ String.ofList (List.replicate (width - s.length) ' ')

def right (width : Nat) (s : String) : String :=
  String.ofList (List.replicate (width - s.length) ' ') ++ s

end TitleDock.Text
