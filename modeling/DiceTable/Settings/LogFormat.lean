/-! # The formats of log entries

The usual format of an entry in each of the styles in which placeholders are written. A message
shows them where the name of the format, or that of the table of styles, stands in the place of a
level.
-/

namespace DiceTable.Settings

def usualFormat : String := "%(levelname)s:%(name)s:%(message)s"

/-- The usual format in each style of placeholders, with the mark and the name of the style. -/
def styles : List (String × String × String) :=
  [("%", "PercentStyle", usualFormat),
    ("\x7b", "StrFormatStyle", "\x7blevelname\x7d:\x7bname\x7d:\x7bmessage\x7d"),
    ("$", "StringTemplateStyle", "$\x7blevelname\x7d:$\x7bname\x7d:$\x7bmessage\x7d")]

def stylesText : String :=
  "\x7b" ++ ", ".intercalate (styles.map fun (mark, style, format) =>
    "'" ++ mark ++ "': (<class 'logging." ++ style ++ "'>, '" ++ format ++ "')") ++ "\x7d"

end DiceTable.Settings
