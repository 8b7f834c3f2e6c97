/-! # Letter case

Upper and lower case of the ASCII letters; every other character stands for itself.
-/

namespace Spreadsheet.Text

def upper (s : String) : String := String.ofList (s.toList.map Char.toUpper)

def lower (s : String) : String := String.ofList (s.toList.map Char.toLower)

end Spreadsheet.Text
