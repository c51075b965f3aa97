import FormEngine.Markup.Reference
/-!
# Markup as tokens

Markup is read leniently: every text is a list of tokens. A tag that the text ends in is closed
there, a `<` that starts nothing is text, and an attribute may lack its value or its quotes.
Comments, processing instructions and stray declarations become separators, which keep the
texts around them apart; a document type leaves no trace. Line ends are `\n` in text, while
attribute values keep them as they are.
-/

namespace FormEngine.Markup

/-- A token of markup; names and attributes are as written. -/
inductive Token where
  | openTag (name : String) (attributes : List (String × String)) (selfClosing : Bool)
  | closeTag (name : String)
  /-- The tag `</>`, which closes the innermost element. -/
  | closeInnermost
  | text (cs : List Char)
  | separator
  deriving DecidableEq, Repr, Inhabited

/-- The blanks between the parts of a tag. -/
def isTagBlank (c : Char) : Bool := c == ' ' || c == '\t' || c == '\n' || c == '\r'

/-- Characters that end the name of a tag. -/
def endsTagName (c : Char) : Bool := isTagBlank c || c == '/' || c == '>'

/-- Characters that end the name of an attribute. -/
def endsAttributeName (c : Char) : Bool := endsTagName c || c == '='

/-- A value up to its closing quote, and what follows it. -/
def quotedValue (quote : Char) : List Char → List Char × List Char
  | [] => ([], [])
  | c :: rest =>
    if c = quote then ([], rest)
    else if c = '&' then
      let r := reference true rest
      let (value, after) := quotedValue quote (rest.drop r.taken)
      (r.text ++ value, after)
    else
      let (value, after) := quotedValue quote rest
      (c :: value, after)
termination_by cs => cs.length
decreasing_by all_goals simp only [List.length_drop, List.length_cons]; omega

/-- A value without quotes, up to a blank or the end of the tag. A carriage return is no blank
inside it. -/
def bareValue : List Char → List Char × List Char
  | [] => ([], [])
  | c :: rest =>
    if c = ' ' ∨ c = '\t' ∨ c = '\n' ∨ c = '>' then ([], c :: rest)
    else if c = '&' then
      let r := reference false rest
      let (value, after) := bareValue (rest.drop r.taken)
      (r.text ++ value, after)
    else
      let (value, after) := bareValue rest
      (c :: value, after)
termination_by cs => cs.length
decreasing_by all_goals simp only [List.length_drop, List.length_cons]; omega

/-- The value after an equals sign. -/
def attributeValue (cs : List Char) : List Char × List Char :=
  match cs.dropWhile isTagBlank with
  | '"' :: rest => quotedValue '"' rest
  | '\'' :: rest => quotedValue '\'' rest
  | rest => bareValue rest

/-- The part of a tag after its name. -/
structure TagBody where
  attributes : List (String × String) := []
  selfClosing : Bool := false
  rest : List Char := []
  deriving Repr, Inhabited

/-- The attributes of a tag and how it ends. A slash that does not end the tag still makes it
self-closing, and what follows the slash is passed over like a value. -/
def tagBody : Nat → TagBody → List Char → TagBody
  | 0, body, _ => body
  | fuel + 1, body, cs =>
    match cs.dropWhile isTagBlank with
    | [] => { body with rest := [] }
    | '>' :: rest => { body with rest }
    | '/' :: '>' :: rest => { body with selfClosing := true, rest }
    | '/' :: rest => tagBody fuel { body with selfClosing := true } (attributeValue rest).2
    | ':' :: rest => tagBody fuel body rest
    | c :: rest =>
      let name := c :: rest.takeWhile fun c => !endsAttributeName c
      let rest := rest.dropWhile fun c => !endsAttributeName c
      match rest.dropWhile isTagBlank with
      | '=' :: rest =>
        let (value, rest) := attributeValue rest
        tagBody fuel
          { body with attributes := body.attributes ++ [(String.ofList name, String.ofList value)] } rest
      | rest => tagBody fuel { body with attributes := body.attributes ++ [(String.ofList name, "")] } rest

/-- Where a reader stands in a comment. -/
inductive CommentState where
  | start
  | startDash
  | body
  | dash
  | dashes
  | bang
  deriving DecidableEq, Repr

/-- What follows a comment. It ends with `-->` or `--!>`, and may end where it starts. -/
def skipComment : CommentState → List Char → List Char
  | _, [] => []
  | s, c :: rest =>
    match s, c with
    | .start, '>' | .startDash, '>' | .dashes, '>' | .bang, '>' => rest
    | .start, '-' => skipComment .startDash rest
    | .startDash, '-' | .dash, '-' | .dashes, '-' => skipComment .dashes rest
    | .body, '-' | .bang, '-' => skipComment .dash rest
    | .dashes, '!' => skipComment .bang rest
    | _, _ => skipComment .body rest

/-- What follows the next `>`. -/
def skipPastClose (cs : List Char) : List Char := (cs.dropWhile (· != '>')).tail

/-- What follows a processing instruction, after its first character. -/
def skipInstruction : List Char → List Char
  | '?' :: '>' :: rest => rest
  | _ :: rest => skipInstruction rest
  | [] => []

/-- Text with every line end as `\n`. -/
def normalizeLineEnds : List Char → List Char
  | '\r' :: '\n' :: rest => '\n' :: normalizeLineEnds rest
  | '\r' :: rest => '\n' :: normalizeLineEnds rest
  | c :: rest => c :: normalizeLineEnds rest
  | [] => []

/-- The characters of a literal section and what follows its end `]]>`. -/
def literalSection : List Char → List Char × List Char
  | ']' :: ']' :: '>' :: rest => ([], rest)
  | c :: rest =>
    let (cs, after) := literalSection rest
    (c :: cs, after)
  | [] => ([], [])

/-- The text after a given word, letters of either case being the same. -/
def afterWord? : List Char → List Char → Option (List Char)
  | [], cs => some cs
  | w :: word, c :: cs => if w.toLower = c.toLower then afterWord? word cs else none
  | _ :: _, [] => none

/-- The declaration after `<!`. -/
def declaration (cs : List Char) : Option Token × List Char :=
  match afterWord? ['-', '-'] cs with
  | some rest => (some .separator, skipComment .start rest)
  | none =>
    match afterWord? "[CDATA[".toList cs with
    | some rest =>
      let (text, rest) := literalSection rest
      (some (.text (normalizeLineEnds text)), rest)
    | none =>
      match afterWord? "DOCTYPE".toList cs with
      | some rest => (none, skipPastClose rest)
      | none => (some .separator, skipPastClose cs)

/-- The tag after `</`. -/
def closing : List Char → Token × List Char
  | [] => (.text ['<', '/'], [])
  | c :: rest =>
    if c = '>' then (.closeInnermost, rest)
    else if isTagBlank c || c == '<' || c == ':' then (.text ['<', '/'], c :: rest)
    else
      (.closeTag (String.ofList (c :: rest.takeWhile fun c => !endsTagName c)),
        skipPastClose (rest.dropWhile fun c => !endsTagName c))

/-- The tag after `<`. -/
def opening : List Char → Token × List Char
  | [] => (.text ['<'], [])
  | c :: rest =>
    if isTagBlank c || c == ':' || c == '<' || c == '>' then (.text ['<'], c :: rest)
    else
      let name := c :: rest.takeWhile fun c => !endsTagName c
      let rest := rest.dropWhile fun c => !endsTagName c
      let body := tagBody (rest.length + 1) {} rest
      (.openTag (String.ofList name) body.attributes body.selfClosing, body.rest)

/-- The token at the start of a text that is not empty, if it leaves one, and what follows. -/
def nextToken : List Char → Option Token × List Char
  | [] => (none, [])
  | '<' :: '!' :: rest => declaration rest
  | '<' :: '/' :: rest => let (t, rest) := closing rest; (some t, rest)
  | '<' :: '?' :: rest =>
    match rest with
    | [] => (none, [])
    | c :: rest =>
      (some .separator, if isTagBlank c then skipPastClose (c :: rest) else skipInstruction rest)
  | '<' :: rest => let (t, rest) := opening rest; (some t, rest)
  | '&' :: rest =>
    let r := reference false rest
    (some (.text r.text), rest.drop r.taken)
  | '\r' :: '\n' :: rest => (some (.text ['\n']), rest)
  | '\r' :: rest => (some (.text ['\n']), rest)
  | c :: rest => (some (.text [c]), rest)

/-- The first `fuel` tokens of a text. -/
def tokensWithin : Nat → List Char → List Token
  | 0, _ => []
  | _ + 1, [] => []
  | fuel + 1, c :: cs =>
    let (token?, rest) := nextToken (c :: cs)
    token?.toList ++ tokensWithin fuel rest

/-- The tokens of a text. A byte order mark at its start does not count. -/
def tokens (source : String) : List Token :=
  let cs := source.toList
  let cs := if cs.head? = some (Char.ofNat 0xFEFF) then cs.tail else cs
  tokensWithin cs.length cs

end FormEngine.Markup
