import AnalysisPanel.Config.Lexeme
import AnalysisPanel.Config.Term

/-! Reading configuration texts. Commas part the members of a group and may follow the last one;
groups nest within a bound; lines at the top may enable extensions of the grammar and say what the
text is about. -/

namespace AnalysisPanel.Config.Reader

/-- Extensions that a text may enable: values stand for present ones, records need their names, and
a present value may be a record without parentheses of its own. -/
structure Extensions where
  implicitSome : Bool := false
  explicitNames : Bool := false
  bareVariants : Bool := false
  deriving DecidableEq, Inhabited

/-- How deep a text may nest. -/
def maxDepth : Nat := 128

/-- Words that stand for values and take no group after them. -/
def isKeyword (name : String) : Bool :=
  ["true", "false", "None", "inf", "inff32", "inff64", "NaN", "NaNf32", "NaNf64"].contains name

/-- Whether the text is at the end of a group. -/
def closes (mark : Char) (cs : List Char) : Bool := cs.head? == some mark

/-- Whether the text begins with the name of a field. -/
def atField (cs : List Char) : Bool :=
  match fieldName? cs with
  | some (_, rest) => (expect? ':' rest).isSome
  | none => false

/-- A number: a numeral, or an octet written as a character. -/
def number? : List Char → Option (Term × List Char)
  | 'b' :: '\'' :: rest => (octetCharacter? rest).map fun r => (.octets [r.1], r.2)
  | cs =>
    let text := numeralSpan cs
    if isNumeral text then some (.number text, cs.drop text.length) else none

/-- Whether a number may begin where a text begins. -/
def atNumber : List Char → Bool
  | 'b' :: '\'' :: _ => true
  | c :: _ => c.isDigit || c == '+' || c == '-' || c == '.'
  | [] => false

/-- The upper bound of a range after its two points. One after an equals sign is not left out. -/
def upper? : List Char → Option (Option Term × List Char)
  | '=' :: rest => (number? rest).map fun r => (some r.1, r.2)
  | rest => if atNumber rest then (number? rest).map fun r => (some r.1, r.2) else some (none, rest)

/-- A number, or a range of numbers. -/
def numeric? : List Char → Option (Term × List Char)
  | '.' :: '.' :: rest => (upper? rest).map fun r => (.range none r.1, r.2)
  | cs =>
    match number? cs with
    | some (lower, '.' :: '.' :: rest) =>
      (upper? rest).map fun r => (.range (some lower) r.1, r.2)
    | number => number

/-- A term in single characters: a number, a range or a quoted text. -/
def leaf? : List Char → Option (Term × List Char)
  | '"' :: rest => (quoted? rest).map fun r => (.text (String.ofList r.1), r.2)
  | '\'' :: rest => (character? rest).map fun r => (.character r.1, r.2)
  | 'r' :: rest => (rawText? rest).map fun r => (.text (String.ofList r.1), r.2)
  | 'b' :: '"' :: rest => (quotedOctets? rest).map fun r => (.octets r.1, r.2)
  | 'b' :: 'r' :: rest => (rawText? rest).map fun r => (.octets (Text.Utf8.encode r.1), r.2)
  | cs => numeric? cs

/-- The end of a present value, after which a comma may stand. -/
def endSome? (r : Term × List Char) : Option (Term × List Char) :=
  match comma? r.2 with
  | some (_, ')' :: rest) => some (.some r.1, rest)
  | _ => none

mutual

/-- Reads a term that the text begins with, in which groups may nest `depth` deep. -/
def term? (ext : Extensions) (depth : Nat) : Nat → List Char → Option (Term × List Char)
  | 0, _ => none
  | fuel + 1, cs =>
    match word? cs with
    | some (raw, name, rest) =>
      if !raw && isKeyword name then some (.word raw name, rest)
      else if !raw && name == "Some" then present? ext depth fuel rest
      else
        match skip? rest with
        | some ('(' :: inside) => group? ext depth (some name) fuel inside
        | some rest => some (.word raw name, rest)
        | none => none
    | none =>
      match cs with
      | '(' :: rest => group? ext depth none fuel rest
      | '[' :: rest =>
        match depth with
        | 0 => none
        | depth + 1 => (terms? ext ']' depth fuel rest).map fun r => (.list r.1, r.2)
      | '\x7b' :: rest =>
        match depth with
        | 0 => none
        | depth + 1 => (entries? ext depth fuel rest).map fun r => (.map r.1, r.2)
      | cs => leaf? cs
termination_by structural fuel => fuel

/-- Reads what stands after the word for a present value. -/
def present? (ext : Extensions) (depth : Nat) : Nat → List Char → Option (Term × List Char)
  | 0, _ => none
  | fuel + 1, cs =>
    match depth, skip? cs with
    | depth + 1, some ('(' :: inside) =>
      match skip? inside with
      | none => none
      | some inside =>
        if ext.bareVariants && (closes ')' inside || atField inside) then
          (group? ext depth none fuel inside).map fun r => (.some r.1, r.2)
        else
          match term? ext depth fuel inside with
          | none => none
          | some r =>
            match endSome? r with
            | some r => some r
            | none =>
              if ext.bareVariants then
                (group? ext depth none fuel inside).map fun r => (.some r.1, r.2)
              else none
    | depth + 1, some rest =>
      if ext.implicitSome then (term? ext depth fuel rest).map fun r => (.some r.1, r.2) else none
    | _, _ => none
termination_by structural fuel => fuel

/-- Reads a record or a tuple after its opening parenthesis. Two parentheses with nothing at all
between them do not count as a level. -/
def group? (ext : Extensions) (depth : Nat) (name : Option String) :
    Nat → List Char → Option (Term × List Char)
  | 0, _ => none
  | fuel + 1, cs =>
    if name.isNone && closes ')' cs then some (.tuple none [], cs.tail)
    else
      match depth, skip? cs with
      | depth + 1, some cs =>
        if atField cs then
          (fields? ext depth fuel cs).map fun r => (.record name r.1, r.2)
        else (terms? ext ')' depth fuel cs).map fun r => (.tuple name r.1, r.2)
      | _, _ => none
termination_by structural fuel => fuel

/-- Reads the terms of a group up to its closing mark. -/
def terms? (ext : Extensions) (mark : Char) (depth : Nat) :
    Nat → List Char → Option (List Term × List Char)
  | 0, _ => none
  | fuel + 1, cs =>
    match depth, skip? cs with
    | _, none => none
    | 0, some cs => if closes mark cs then some ([], cs.tail) else none
    | inner + 1, some cs =>
      if closes mark cs then some ([], cs.tail)
      else
        match term? ext inner fuel cs with
        | none => none
        | some (v, rest) =>
          match comma? rest with
          | none => none
          | some (true, rest) => (terms? ext mark depth fuel rest).map fun r => (v :: r.1, r.2)
          | some (false, rest) => if closes mark rest then some ([v], rest.tail) else none
termination_by structural fuel => fuel

/-- Reads the fields of a record up to its closing parenthesis. -/
def fields? (ext : Extensions) (depth : Nat) :
    Nat → List Char → Option (List (String × Term) × List Char)
  | 0, _ => none
  | fuel + 1, cs =>
    match depth, skip? cs with
    | _, none => none
    | 0, some cs => if closes ')' cs then some ([], cs.tail) else none
    | inner + 1, some cs =>
      if closes ')' cs then some ([], cs.tail)
      else
        match fieldName? cs with
        | none => none
        | some (key, rest) =>
          match (expect? ':' rest).bind skip? with
          | none => none
          | some rest =>
            match term? ext inner fuel rest with
            | none => none
            | some (v, rest) =>
              match comma? rest with
              | none => none
              | some (true, rest) =>
                (fields? ext depth fuel rest).map fun r => ((key, v) :: r.1, r.2)
              | some (false, rest) => if closes ')' rest then some ([(key, v)], rest.tail) else none
termination_by structural fuel => fuel

/-- Reads the entries of a map up to its closing brace. -/
def entries? (ext : Extensions) (depth : Nat) :
    Nat → List Char → Option (List (Term × Term) × List Char)
  | 0, _ => none
  | fuel + 1, cs =>
    match depth, skip? cs with
    | _, none => none
    | 0, some cs => if closes '\x7d' cs then some ([], cs.tail) else none
    | inner + 1, some cs =>
      if closes '\x7d' cs then some ([], cs.tail)
      else
        match term? ext inner fuel cs with
        | none => none
        | some (key, rest) =>
          match (expect? ':' rest).bind skip? with
          | none => none
          | some rest =>
            match term? ext inner fuel rest with
            | none => none
            | some (v, rest) =>
              match comma? rest with
              | none => none
              | some (true, rest) =>
                (entries? ext depth fuel rest).map fun r => ((key, v) :: r.1, r.2)
              | some (false, rest) =>
                if closes '\x7d' rest then some ([(key, v)], rest.tail) else none
termination_by structural fuel => fuel

end

/-! ### Lines at the top -/

/-- Enables the extension of a name, if there is one. -/
def Extensions.enable? (ext : Extensions) (name : String) : Option Extensions :=
  if name = "implicit_some" then some { ext with implicitSome := true }
  else if name = "explicit_struct_names" then some { ext with explicitNames := true }
  else if name = "unwrap_variant_newtypes" then some { ext with bareVariants := true }
  else if name = "unwrap_newtypes" then some ext
  else none

/-- Takes words off a text, with blanks after each. -/
def expectAll? : List (List Char) → List Char → Option (List Char)
  | [], cs => some cs
  | e :: es, cs => if e.isPrefixOf cs then (skip? (cs.drop e.length)).bind (expectAll? es) else none

/-- Reads the names of extensions, with commas between them and maybe one at the end. -/
def names? (ext : Extensions) : Nat → List Char → Option (Extensions × List Char)
  | 0, _ => none
  | fuel + 1, cs =>
    match fieldName? cs with
    | none => none
    | some (name, rest) =>
      match ext.enable? name, comma? rest with
      | some ext, some (true, rest) =>
        if rest.head?.any startsWord then names? ext fuel rest else some (ext, rest)
      | some ext, some (false, rest) => some (ext, rest)
      | _, _ => none

/-- Reads the names of extensions after their opening parenthesis, up to the closing one. -/
def enabled? (ext : Extensions) (cs : List Char) : Option (Extensions × List Char) :=
  match names? ext cs.length.succ cs with
  | some (ext, rest) => ((skip? rest).bind (expectAll? [[')']])).map (ext, ·)
  | none => none

/-- Reads a text that says what the document is about. -/
def aboutText? (cs : List Char) : Option (List Char) :=
  match leaf? cs with
  | some (.text _, rest) => skip? rest
  | _ => none

/-- Reads a line at the top after its opening bracket: it enables extensions, or names the type or
the schema of the document, which changes nothing. -/
def topLine? (ext : Extensions) (cs : List Char) : Option (Extensions × List Char) :=
  match expectAll? ["enable".toList, ['(']] cs with
  | some inside => enabled? ext inside
  | none =>
    let about := ["type", "schema"].findSome? fun word => expectAll? [word.toList, ['=']] cs
    (about.bind aboutText?).map (ext, ·)

/-- Reads the lines at the top, of which there are at most `fuel`. -/
def extensions? (ext : Extensions) : Nat → List Char → Option (Extensions × List Char)
  | 0, _ => none
  | fuel + 1, cs =>
    if closes '#' cs then
      match (expectAll? [['#'], ['!'], ['[']] cs).bind (topLine? ext) with
      | none => none
      | some (ext, rest) =>
        match expectAll? [[']']] rest with
        | none => none
        | some rest => extensions? ext fuel rest
    else some (ext, cs)

/-- Reads a whole text: the extensions it enables, and its term. -/
def document? (cs : List Char) : Option (Extensions × Term) :=
  match (skip? cs).bind fun cs => extensions? {} cs.length.succ cs with
  | none => none
  | some (ext, cs) =>
    match term? ext maxDepth (3 * cs.length + 3) cs with
    | none => none
    | some (v, rest) =>
      match skip? rest with
      | some [] => some (ext, v)
      | _ => none

end AnalysisPanel.Config.Reader
