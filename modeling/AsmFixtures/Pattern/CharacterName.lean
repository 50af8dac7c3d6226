/-! Names of characters, by which a pattern may ask for one. Which names there are is told from
outside; those of the ASCII characters are here. -/

namespace AsmFixtures.Pattern

abbrev CharacterNames := String → Option Char

def asciiSigns : List (String × Char) :=
  [("SPACE", ' '), ("EXCLAMATION MARK", '!'), ("QUOTATION MARK", '"'), ("NUMBER SIGN", '#'),
   ("DOLLAR SIGN", '$'), ("PERCENT SIGN", '%'), ("AMPERSAND", '&'), ("APOSTROPHE", '\''),
   ("LEFT PARENTHESIS", '('), ("RIGHT PARENTHESIS", ')'), ("ASTERISK", '*'),
   ("PLUS SIGN", '+'), ("COMMA", ','), ("HYPHEN-MINUS", '-'), ("FULL STOP", '.'),
   ("SOLIDUS", '/'), ("DIGIT ZERO", '0'), ("DIGIT ONE", '1'), ("DIGIT TWO", '2'),
   ("DIGIT THREE", '3'), ("DIGIT FOUR", '4'), ("DIGIT FIVE", '5'), ("DIGIT SIX", '6'),
   ("DIGIT SEVEN", '7'), ("DIGIT EIGHT", '8'), ("DIGIT NINE", '9'), ("COLON", ':'),
   ("SEMICOLON", ';'), ("LESS-THAN SIGN", '<'), ("EQUALS SIGN", '='),
   ("GREATER-THAN SIGN", '>'), ("QUESTION MARK", '?'), ("COMMERCIAL AT", '@'),
   ("LEFT SQUARE BRACKET", '['), ("REVERSE SOLIDUS", '\\'), ("RIGHT SQUARE BRACKET", ']'),
   ("CIRCUMFLEX ACCENT", '^'), ("LOW LINE", '_'), ("GRAVE ACCENT", '\x60'),
   ("LEFT CURLY BRACKET", '\x7b'), ("VERTICAL LINE", '|'), ("RIGHT CURLY BRACKET", '\x7d'),
   ("TILDE", '~')]

/-- Letter case does not count in a name. -/
def asciiNames : CharacterNames := fun name =>
  let capital := String.ofList (name.toList.map Char.toUpper)
  match asciiSigns.lookup capital with
  | some c => some c
  | none =>
    (List.range 26).findSome? fun i =>
      let letter := Char.ofNat ('A'.toNat + i)
      if capital = "LATIN CAPITAL LETTER " ++ letter.toString then some letter
      else if capital = "LATIN SMALL LETTER " ++ letter.toString then some letter.toLower
      else none

end AsmFixtures.Pattern
