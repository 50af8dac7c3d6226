import AsmFixtures.CommandLine.Arguments

/-! What the program says of itself: how it is called and, where help is asked for, what its
arguments mean. Lines are broken to leave two columns of the screen free. A line holds as many
parts as fit into it, and at least one. -/

namespace AsmFixtures.CommandLine

structure Console where
  programName : String
  columns : Nat

namespace OptionName

def withValue (o : OptionName) (name : String) : String :=
  match o with
  | outdir => name ++ " OUTDIR"
  | cpuid => name ++ " CPUID"
  | help | rotate | log => name

def explanation : OptionName → String
  | help => "show this help message and exit"
  | outdir => "directory for the generated .s files and report.txt"
  | cpuid => "only cover forms whose CPUID matches this regexp"
  | rotate => "walk the argument tables instead of taking their prefix"
  | log => "activate logging"

end OptionName

/-- The lines of some parts. The open line holds the parts of `line` and reaches to column `used`;
the lines behind it start at column `indent`. -/
def fill (width indent used : Nat) (line : List String) : List String → List String
  | [] => if line.isEmpty then [] else [Text.join " " line]
  | part :: rest =>
    if line.isEmpty then fill width indent (used + part.length) [part] rest
    else if used + 1 + part.length ≤ width then
      fill width indent (used + 1 + part.length) (line ++ [part]) rest
    else Text.join " " line :: fill width indent (indent + part.length) [part] rest

/-- Of more than two line feeds in a row two stay; `passed` counts those in front. -/
def closeGaps (passed : Nat) : List Char → List Char
  | [] => []
  | c :: rest =>
    if c ≠ '\n' then c :: closeGaps 0 rest
    else if passed < 2 then c :: closeGaps (passed + 1) rest
    else closeGaps passed rest

namespace Console

def width (c : Console) : Nat := c.columns - 2

/-- Arguments start behind the name of the program, or below it if the name is long. Either way
the options and the list of instructions are apart where one line is too short for both. -/
def usage (c : Console) : String :=
  let opening := "usage: "
  let name := c.programName
  let options := OptionName.all.map fun o => "[" ++ o.withValue o.short ++ "]"
  let arguments := ["csv"]
  let whole := Text.join " " ([name].filter (! ·.isEmpty) ++ options ++ arguments)
  let (indent, lines) :=
    if opening.length + whole.length ≤ c.width then (0, [whole])
    else if 4 * (opening.length + name.length) ≤ 3 * c.width then
      let indent := opening.length + name.length + 1
      (indent, fill c.width indent opening.length [] (name :: options) ++
        fill c.width indent indent [] arguments)
    else
      let indent := opening.length
      let below := fill c.width indent indent []
      let together := below (options ++ arguments)
      (indent, name :: if together.length = 1 then together else below options ++ below arguments)
  opening ++ Text.join ("\n" ++ Text.padEnd indent "") lines

def explanationColumn (c : Console) : Nat := min 24 (max (c.columns - 22) 4)

def entry (c : Console) (heading explanation : String) : String :=
  let column := c.explanationColumn
  let width := max (c.width - column) 11
  let opening :=
    if heading.length + 4 ≤ column then "  " ++ Text.padEnd (column - 2) heading
    else "  " ++ heading ++ "\n" ++ Text.padEnd column ""
  opening ++ Text.join ("\n" ++ Text.padEnd column "")
    (fill width 0 0 [] (Text.split ' ' explanation)) ++ "\n"

def optionEntry (c : Console) (o : OptionName) : String :=
  c.entry (o.withValue o.short ++ ", " ++ o.withValue o.long) o.explanation

def usageText (c : Console) : String :=
  String.ofList (closeGaps 0 (c.usage ++ "\n").toList)

def helpText (c : Console) : String :=
  let purpose := "generate Go assembler encoding tests checked by XED"
  String.ofList <| closeGaps 0 <| String.toList <|
    c.usage ++ "\n\n" ++
    Text.join "\n" (fill (max c.width 11) 0 0 [] (Text.split ' ' purpose)) ++ "\n\n" ++
    "positional arguments:\n" ++ c.entry "csv" "x86.csv instruction database" ++ "\n" ++
    "options:\n" ++ Text.concat (OptionName.all.map c.optionEntry)

end Console

end AsmFixtures.CommandLine
