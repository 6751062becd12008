import RowRecipe.Expression.FloatText
import RowRecipe.Expression.Position

/-!
# Tokens of expressions

The text of an expression is made of numbers, texts, characters, names and symbols. Some words and
symbols are kept back: they are tokens, but no expression holds them, unless as names of functions.
-/
namespace RowRecipe.Expression

/-- Why a text cannot be cut into tokens. -/
inductive LexicalFault where
  | openText
  | badEscape (text : String)
  | badNumber (text : String)
  | badChar (text : String)
  | badName (text : String)
  | stray (text : String)
  /-- A symbol of other languages, and what to write instead. -/
  | foreign (hint : String)
  deriving Repr, DecidableEq

def LexicalFault.message : LexicalFault → String
  | .openText => "Open string is not terminated"
  | .badEscape text => "Invalid escape sequence: '" ++ text ++ "'"
  | .badNumber text => "Invalid number: '" ++ text ++ "'"
  | .badChar text => "Invalid character: '" ++ text ++ "'"
  | .badName text => "Variable name is not proper: '" ++ text ++ "'"
  | .stray text => "Unexpected '" ++ text ++ "'"
  | .foreign hint => hint

inductive Token where
  | whole (value : Int64)
  | float (value : Float)
  | text (value : String)
  /-- A piece of a text, behind which an expression in braces stands. -/
  | piece (value : String)
  | char (value : Char)
  | boolean (value : Bool)
  | unit
  | name (text : String)
  | symbol (text : String)
  /-- A word or symbol that is kept back. -/
  | reserved (text : String)
  | bad (fault : LexicalFault)
  | finish
  deriving DecidableEq

namespace Token

/-- How error messages show a token. -/
def display : Token → String
  | .whole value => integerText value.toInt
  | .float value => floatLayout.text value
  | .text value => "\"" ++ value ++ "\""
  | .piece _ => "string"
  | .char value => value.toString
  | .boolean value => if value then "true" else "false"
  | .unit => "()"
  | .name word | .symbol word | .reserved word => word
  | .bad fault => fault.message
  | .finish => "\x7bEOF\x7d"

/-- Whether a minus sign in front of digits behind a token is not the sign of their number. -/
def endsOperand : Token → Bool
  | .symbol mark => !allowsSign.contains mark
  | .bad _ | .finish => false
  | _ => true
where
  /-- Symbols behind which a number may have a sign. -/
  allowsSign : List String :=
    [";", ":", ",", "..", "..=", "\x7b", "(", "[", "+", "+=", "-", "-=", "*", "*=", "/", "/=", "%",
      "%=", "**", "**=", "<<", "<<=", ">>", ">>=", "=", "==", "!=", "<", ">", "!", "<=", ">=", "&&",
      "&=", "||", "|=", "^", "^=", "&", "|", "if", "while", "until", "in", "!in", "return", "throw"]

end Token

def symbolWords : List String :=
  ["let", "const", "if", "else", "switch", "do", "while", "until", "loop", "for", "in", "continue",
    "break", "fn", "private", "return", "throw", "try", "catch", "import", "export", "as", "_"]

/-- How a word that is kept back may be used. -/
inductive Reserve where
  /-- In no way. -/
  | unused
  /-- As the name of a function. -/
  | function
  /-- As the name of a function or a method. -/
  | method
  deriving Repr, DecidableEq

def reservedWords : List (String × Reserve) :=
  ["var", "static", "shared", "with", "is", "goto", "match", "case", "default", "void", "null",
      "nil", "spawn", "thread", "go", "sync", "async", "await", "yield", "new", "use", "module",
      "package", "super", "public", "protected", "this"].map (·, .unused)
    ++ ["print", "debug", "eval", "Fn", "is_def_var", "is_def_fn"].map (·, .function)
    ++ ["type_of", "call", "curry", "is_shared"].map (·, .method)

/-- How a word or symbol that is kept back may be used. -/
def reserveOf (text : String) : Reserve :=
  (lookupWord text reservedWords).getD .unused
where
  lookupWord (text : String) : List (String × Reserve) → Option Reserve
    | [] => none
    | (word, reserve) :: rest => if word = text then some reserve else lookupWord text rest

/-- Symbols and their tokens, longer ones in front of shorter ones. -/
def symbols : List (String × Token) :=
  let plain := fun text => (text, Token.symbol text)
  let unused := fun text => (text, Token.reserved text)
  let foreign := fun text hint => (text, Token.bad (.foreign hint))
  let comment :=
    "'(* .. *)' is not a valid comment format. This is not Pascal! Should it be '/* .. */'?"
  [unused "...", plain "..=",
    foreign "==="
      "'===' is not a valid operator. This is not JavaScript! Should it be '=='?",
    foreign "!=="
      "'!==' is not a valid operator. This is not JavaScript! Should it be '!='?",
    plain "**=", plain "<<=", plain ">>=",
    foreign "::<" "'::<>' is not a valid symbol. This is not Rust! Should it be '::'?",
    foreign "# \x7b" "'#' is not a valid symbol. Should it be '#\x7b'?",
    ("()", .unit), foreign "(*" comment, foreign "*)" comment,
    plain "#\x7b", unused "#!", ("# ", .reserved "#"), plain "+=", unused "++", plain "-=",
    foreign "->" "'->' is not a valid symbol. This is not C or C++!", unused "--",
    plain "*=", plain "**", plain "/=", plain "..", plain "==", plain "=>", plain "::",
    foreign ":="
      "':=' is not a valid assignment operator. This is not Go or Pascal! Should it be simply '='?",
    foreign ":;" "':;' is not a valid symbol. Should it be '::'?",
    plain "<=", foreign "<-" "'<-' is not a valid symbol. This is not Go! Should it be '<='?",
    plain "<<", unused "<|", plain ">=", plain ">>", plain "!=", unused "!.", plain "||",
    plain "|=", unused "|>", plain "&&", plain "&=", plain "^=", plain "%=", plain "?.", plain "??",
    plain "?[", plain "\x7b", plain "\x7d", plain "(", plain ")", plain "[", plain "]", plain "+",
    plain "-", plain "*", plain "/", plain ";", plain ",", plain ".", plain "=", plain ":",
    plain "<", plain ">", plain "!", plain "|", plain "&", plain "^", plain "%",
    unused "#", unused "~", unused "@", unused "$", unused "?"]

/-- Whether a character begins a name. -/
def beginsName (c : Char) : Bool :=
  c.isAlpha || c == '_'

/-- Whether a character goes on in a name. -/
def isNameChar (c : Char) : Bool :=
  c.isAlphanum || c == '_'

/-- Whether a word is a name: its first character other than an underscore is a letter. -/
def isName (word : List Char) : Bool :=
  match word.dropWhile (· == '_') with
  | c :: rest => c.isAlpha && rest.all isNameChar
  | [] => false

/-- The token of a word. -/
def wordToken (word : List Char) : Token :=
  let text := String.ofList word
  if text = "true" then .boolean true
  else if text = "false" then .boolean false
  else if text ∈ symbolWords then .symbol text
  else if text ∈ reservedWords.map Prod.fst then .reserved text
  else if isName word then .name text
  else .bad (.badName text)

end RowRecipe.Expression
