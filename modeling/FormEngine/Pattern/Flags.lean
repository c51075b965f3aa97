import FormEngine.Text.Blank
/-!
# Flags

Flags change how the rest of a group is read. In a verbose pattern white space and comments
between the tokens, and inside some of them, mean nothing.
-/

namespace FormEngine

/-- A flag by its letter. -/
inductive PatternFlag where
  | ignoreCase
  | multiLine
  | dotAll
  | swapGreed
  | unicode
  | crlf
  | verbose
  deriving DecidableEq, Repr, Inhabited

def PatternFlag.ofLetter? : Char → Option PatternFlag
  | 'i' => some ignoreCase
  | 'm' => some multiLine
  | 's' => some dotAll
  | 'U' => some swapGreed
  | 'u' => some unicode
  | 'R' => some crlf
  | 'x' => some verbose
  | _ => none

/-- The flags in force. Greed makes no difference to whether a text matches, so no flag of it
is kept. -/
structure PatternFlags where
  ignoreCase : Bool := false
  multiLine : Bool := false
  dotAll : Bool := false
  unicode : Bool := true
  crlf : Bool := false
  verbose : Bool := false
  deriving DecidableEq, Repr, Inhabited

namespace PatternFlags

def set (f : PatternFlags) (on : Bool) : PatternFlag → PatternFlags
  | .ignoreCase => { f with ignoreCase := on }
  | .multiLine => { f with multiLine := on }
  | .dotAll => { f with dotAll := on }
  | .swapGreed => f
  | .unicode => { f with unicode := on }
  | .crlf => { f with crlf := on }
  | .verbose => { f with verbose := on }

/-- A list of flags as written: some to set and, after a hyphen, some to unset. -/
structure Change where
  on : List PatternFlag := []
  hyphen : Bool := false
  off : List PatternFlag := []
  deriving DecidableEq, Repr, Inhabited

namespace Change

def isEmpty (c : Change) : Bool := c.on.isEmpty && !c.hyphen

/-- One more flag. No flag is written twice. -/
def add? (c : Change) (flag : PatternFlag) : Option Change :=
  if c.on.contains flag || c.off.contains flag then none
  else if c.hyphen then some { c with off := flag :: c.off }
  else some { c with on := flag :: c.on }

end Change

/-- The flags after a change. -/
def apply (f : PatternFlags) (c : Change) : PatternFlags :=
  c.off.foldl (fun f flag => f.set false flag) (c.on.foldl (fun f flag => f.set true flag) f)

/-- The flags up to a colon or a closing parenthesis, with that character and what follows it.
There is one hyphen at most, and a flag after it. -/
def read? (c : Change) : List Char → Option (Change × Char × List Char)
  | [] => none
  | ch :: rest =>
    if ch = ':' || ch = ')' then
      if c.hyphen && c.off.isEmpty then none else some (c, ch, rest)
    else if ch = '-' then
      if c.hyphen then none else read? { c with hyphen := true } rest
    else
      match (PatternFlag.ofLetter? ch).bind c.add? with
      | none => none
      | some c => read? c rest

/-! ## White space in verbose patterns -/

mutual

/-- What follows white space and comments. -/
def skipBlanks : List Char → List Char
  | [] => []
  | c :: rest =>
    if Text.isBlank c then skipBlanks rest
    else if c = '#' then skipComment rest
    else c :: rest

/-- What follows a comment, which ends with its line, and white space and comments after it. -/
def skipComment : List Char → List Char
  | [] => []
  | c :: rest => if c = '\n' then skipBlanks rest else skipComment rest

end

mutual

theorem length_skipBlanks_le (cs : List Char) : (skipBlanks cs).length ≤ cs.length := by
  match cs with
  | [] => simp [skipBlanks]
  | c :: rest =>
    rw [skipBlanks]
    have h₁ := length_skipBlanks_le rest
    have h₂ := length_skipComment_le rest
    split
    · simp only [List.length_cons]; omega
    · split
      · simp only [List.length_cons]; omega
      · exact Nat.le_refl _

theorem length_skipComment_le (cs : List Char) : (skipComment cs).length ≤ cs.length := by
  match cs with
  | [] => simp [skipComment]
  | c :: rest =>
    rw [skipComment]
    have h₁ := length_skipBlanks_le rest
    have h₂ := length_skipComment_le rest
    split <;> (simp only [List.length_cons]; omega)

end

/-- What follows the white space and the comments that mean nothing. -/
def skip (f : PatternFlags) (cs : List Char) : List Char :=
  if f.verbose then skipBlanks cs else cs

theorem length_skip_le (f : PatternFlags) (cs : List Char) : (f.skip cs).length ≤ cs.length := by
  unfold skip
  split
  · exact length_skipBlanks_le cs
  · exact Nat.le_refl _

/-- The longest stretch of characters that pass a test, each with what it lets be skipped after
it, and the rest. -/
def takeWhile (f : PatternFlags) (test : Char → Bool) (cs : List Char) : List Char × List Char :=
  match cs with
  | [] => ([], [])
  | c :: rest =>
    if test c then
      let (taken, rest) := f.takeWhile test (f.skip rest)
      (c :: taken, rest)
    else ([], c :: rest)
termination_by cs.length
decreasing_by
  have := length_skip_le f rest
  simp only [List.length_cons]
  omega

end PatternFlags

end FormEngine
