import ImageVault.Text.Blank

/-!
# Environment files

A line gives a name a value; the name may follow the word `export`, and a name may come
without a value. A value may be quoted, and then extends over several lines; otherwise it
ends at the line's end or at a comment that follows a blank. Lines that cannot be read are
passed over. In a value, a braced reference stands for the value of a name that was given
before, or in the environment of the process.
-/
namespace ImageVault.EnvFile

structure Binding where
  name : List Char
  value : Option (List Char)
  deriving DecidableEq, Repr

/-- A line break in any of the three conventions becomes a newline. -/
def unifyBreaks : List Char → List Char
  | '\r' :: '\n' :: rest => '\n' :: unifyBreaks rest
  | '\r' :: rest => '\n' :: unifyBreaks rest
  | c :: rest => c :: unifyBreaks rest
  | [] => []

def isInlineBlank (c : Char) : Bool :=
  Text.isBlank c && c ≠ '\n'

def skipInline (text : List Char) : List Char :=
  text.dropWhile isInlineBlank

def skipLine (text : List Char) : List Char :=
  (text.dropWhile (· ≠ '\n')).drop 1

/-- The word in front of a name counts only if a blank follows it. -/
def skipExport (text : List Char) : List Char :=
  let word := "export".toList
  if word.isPrefixOf text then
    let rest := text.drop word.length
    if rest.head?.any isInlineBlank then skipInline rest else text
  else text

/-- The place of the closing quote: the first quote that no backslash precedes, and failing
that the last of those that one does precede. -/
def closing? (quote : Char) : Nat → Option Nat → List Char → Option Nat
  | _, last, [] => last
  | place, last, '\\' :: c :: rest =>
    if c = quote then closing? quote (place + 2) (some (place + 1)) rest
    else closing? quote (place + 1) last (c :: rest)
  | place, last, c :: rest =>
    if c = quote then some place else closing? quote (place + 1) last rest

/-- The text up to the closing quote, and the rest after it. -/
def readQuoted? (quote : Char) (text : List Char) : Option (List Char × List Char) :=
  (closing? quote 0 none text).map fun place => (text.take place, text.drop (place + 1))

def singleEscape? : Char → Option Char
  | '\\' => some '\\'
  | '\'' => some '\''
  | _ => none

def doubleEscape? : Char → Option Char
  | '\\' => some '\\'
  | '\'' => some '\''
  | '"' => some '"'
  | 'a' => some (Char.ofNat 7)
  | 'b' => some (Char.ofNat 8)
  | 'f' => some (Char.ofNat 12)
  | 'n' => some '\n'
  | 'r' => some '\r'
  | 't' => some '\t'
  | 'v' => some (Char.ofNat 11)
  | _ => none

/-- A backslash in front of any other character stands for itself. -/
def unescape (escape? : Char → Option Char) : List Char → List Char
  | '\\' :: c :: rest =>
    match escape? c with
    | some image => image :: unescape escape? rest
    | none => '\\' :: unescape escape? (c :: rest)
  | c :: rest => c :: unescape escape? rest
  | [] => []

/-- The text in front of the first comment, which starts after a blank. -/
def beforeComment : List Char → List Char
  | [] => []
  | c :: rest =>
    if Text.isBlank c && (rest.dropWhile Text.isBlank).head? = some '#' then []
    else c :: beforeComment rest

/-- The value after the equals sign; a quote that is never closed makes it unreadable. -/
def readValue? (text : List Char) : Option (List Char × List Char) :=
  match text with
  | '\'' :: rest =>
    (readQuoted? '\'' rest).map fun (value, rest) => (unescape singleEscape? value, rest)
  | '"' :: rest =>
    (readQuoted? '"' rest).map fun (value, rest) => (unescape doubleEscape? value, rest)
  | text =>
    let line := text.takeWhile (· ≠ '\n')
    some (Text.trimRight (beforeComment line), text.dropWhile (· ≠ '\n'))

def isBareNameChar (c : Char) : Bool :=
  c ≠ '=' && c ≠ '#' && !Text.isBlank c

/-- A name in quotes, or a bare one; neither is empty. -/
def readName? : List Char → Option (List Char × List Char)
  | '\'' :: rest =>
    match rest.span (· ≠ '\'') with
    | ([], _) => none
    | (_, []) => none
    | (name, _ :: rest) => some (name, rest)
  | text =>
    match text.span isBareNameChar with
    | ([], _) => none
    | (name, rest) => some (name, rest)

/-- The rest after the end of a line, in front of which a comment may stand. -/
def lineEnd? (text : List Char) : Option (List Char) :=
  match skipInline text with
  | [] => some []
  | '\n' :: rest => some rest
  | '#' :: rest => some (skipLine rest)
  | _ => none

/-- What a line starts with: a name with or without a value, or a comment. -/
def readBinding? (text : List Char) : Option (Option Binding × List Char) :=
  if text.head? = some '#' then some (none, skipLine text)
  else do
    let (name, rest) ← readName? text
    match skipInline rest with
    | '=' :: rest =>
      let (value, rest) ← readValue? (skipInline rest)
      return (some ⟨name, some value⟩, ← lineEnd? rest)
    | rest => return (some ⟨name, none⟩, ← lineEnd? rest)

/-- After an unreadable piece, reading goes on at the line after the place of the fault:
behind the equals sign if it is the value that cannot be read, behind the value if more
text follows it. -/
def resume (text : List Char) : List Char :=
  match readName? text with
  | none => skipLine text
  | some (_, rest) =>
    match skipInline rest with
    | '=' :: rest =>
      match readValue? (skipInline rest) with
      | none => skipLine rest
      | some (_, rest) => skipLine rest
    | rest => skipLine rest

/-- Every round consumes a character, so the length of the text bounds the rounds. -/
def readBindings : Nat → List Char → List Binding
  | 0, _ => []
  | fuel + 1, text =>
    match text.dropWhile Text.isBlank with
    | [] => []
    | start =>
      let start := skipExport start
      match readBinding? start with
      | some (binding, rest) => binding.toList ++ readBindings fuel rest
      | none => readBindings fuel (resume start)

def bindings (text : String) : List Binding :=
  let plain := unifyBreaks text.toList
  readBindings plain.length plain

/-! ### References -/

/-- A reference after its opening brace: the name, the text to fall back on, the rest. -/
def readReference? (text : List Char) :
    Option (List Char × List Char × List Char) :=
  let name := text.takeWhile fun c => c ≠ '\x7d' && c ≠ ':'
  match text.dropWhile fun c => c ≠ '\x7d' && c ≠ ':' with
  | '\x7d' :: rest => some (name, [], rest)
  | ':' :: '-' :: rest =>
    match rest.dropWhile (· ≠ '\x7d') with
    | _ :: after => some (name, rest.takeWhile (· ≠ '\x7d'), after)
    | [] => none
  | _ => none

/-- Replaces the references, given what names stand for; a name without a value stands for
the empty text. -/
def expand (valueOf : List Char → Option (Option (List Char))) : Nat → List Char → List Char
  | 0, _ => []
  | _, [] => []
  | fuel + 1, c :: rest =>
    let reference :=
      match c :: rest with
      | '$' :: '\x7b' :: inner => readReference? inner
      | _ => none
    match reference with
    | some (name, fallback, rest) =>
      ((valueOf name).getD (some fallback)).getD [] ++ expand valueOf fuel rest
    | none => c :: expand valueOf fuel rest

/-- Replaces the value of a name in its place, or adds the name at the end. -/
def assign (binding : Binding) : List Binding → List Binding
  | [] => [binding]
  | old :: rest =>
    if old.name = binding.name then binding :: rest else old :: assign binding rest

def valueOf? (bindings : List Binding) (name : List Char) : Option (Option (List Char)) :=
  (bindings.find? (·.name = name)).map (·.value)

/-- Resolves the references of bindings in their order; those given before come first, then
the environment. -/
def resolve (environment : List Binding) (given : List Binding) : List Binding :=
  given.foldl (fun resolved binding =>
    let valueOf (name : List Char) : Option (Option (List Char)) :=
      (valueOf? resolved name).orElse fun _ => valueOf? environment name
    let value := binding.value.map fun value => expand valueOf (value.length + 1) value
    assign ⟨binding.name, value⟩ resolved) []

end ImageVault.EnvFile
