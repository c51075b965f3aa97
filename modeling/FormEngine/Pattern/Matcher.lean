import FormEngine.Pattern.Engine
/-!
# Matching

A set of gaps of a text is a mask: one boolean for each gap. A pattern takes the mask of the
gaps where it may begin to the mask of the gaps where it may end. A repetition stops when a
further round changes nothing, so it takes no more rounds than the text has gaps.
-/

namespace FormEngine

/-- A set of gaps: the gap with number `i` is a member when entry `i` is true. -/
abbrev Mask := List Bool

section Run

variable [PatternEngine]

namespace Mask

/-- The gaps that lie a member of the set further than a gap of the mask. The entry at hand is
`reached`. -/
def advance (set : CharSet) (reached : Bool) : List Gap → Mask → Mask
  | g :: gaps, b :: mask => reached :: advance set (b && g.after.any set.mem) gaps mask
  | _, _ => []

/-- The gaps of the mask at which the anchor matches. -/
def keep (a : Anchor) (gaps : List Gap) (mask : Mask) : Mask :=
  List.zipWith (fun g b => a.holds g && b) gaps mask

def union (m n : Mask) : Mask := List.zipWith (· || ·) m n

/-- What comes of a mask in `n` rounds. -/
def iterate (round : Mask → Mask) : Nat → Mask → Mask
  | 0, m => m
  | n + 1, m => let m' := round m; if m' = m then m else iterate round n m'

/-- What comes of a mask in at most `n` rounds. -/
def upTo (round : Mask → Mask) : Nat → Mask → Mask
  | 0, m => m
  | n + 1, m => let m' := m.union (round m); if m' = m then m else upTo round n m'

end Mask

namespace Pattern

/-- The gaps where the pattern may end, when it may begin at the gaps of a mask. -/
def run (gaps : List Gap) : Pattern → Mask → Mask
  | .empty, m => m
  | .char set, m => Mask.advance set false gaps m
  | .anchor a, m => Mask.keep a gaps m
  | .sequence p q, m => q.run gaps (p.run gaps m)
  | .choice p q, m => Mask.union (p.run gaps m) (q.run gaps m)
  | .capture p, m => p.run gaps m
  | .repetition p min max, m =>
    Mask.upTo (p.run gaps) ((max.map (· - min)).getD gaps.length)
      (Mask.iterate (p.run gaps) min m)

/-- The pattern matches some part of the text. -/
def isFoundIn (p : Pattern) (s : String) : Bool :=
  let gaps := Gap.list s
  (p.run gaps (gaps.map fun _ => true)).any id

end Pattern

end Run

end FormEngine
