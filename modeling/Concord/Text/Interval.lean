import Concord.Text.CharSet

namespace Concord.Text

/-! Sets of characters as closed intervals of code points, ascending and apart. -/

abbrev Intervals := List (Nat × Nat)

namespace Intervals

def contain (intervals : Intervals) (code : Nat) : Bool :=
  intervals.any fun (first, last) => first ≤ code && code ≤ last

/-- Adds an interval that begins no earlier than the last one, which stands first. -/
def push (intervals : Intervals) (next : Nat × Nat) : Intervals :=
  match intervals with
  | (first, last) :: earlier =>
      if next.1 ≤ last + 1 then (first, max last next.2) :: earlier else next :: intervals
  | [] => [next]

/-- The intervals that cover what some others cover. -/
def ofList (covering : List (Nat × Nat)) : Intervals :=
  ((covering.mergeSort fun a b => a.1 ≤ b.1).foldl push []).reverse

def lastCode : Nat := 0x10FFFF

/-- What lies between the intervals, from a code point on. -/
def gaps : Nat → Intervals → Intervals
  | start, [] => if start ≤ lastCode then [(start, lastCode)] else []
  | start, (first, last) :: rest =>
      if start < first then (start, first - 1) :: gaps (last + 1) rest else gaps (last + 1) rest

def complement (intervals : Intervals) : Intervals := gaps 0 intervals

def union (first second : Intervals) : Intervals := ofList (first ++ second)

def intersection (first second : Intervals) : Intervals :=
  complement (union (complement first) (complement second))

def ofRuns (runs : Runs) : Intervals :=
  ofList (runs.flatMap fun (first, last, step) =>
    if step = 1 then [(first, last)]
    else (List.range ((last - first) / step + 1)).map fun k =>
      (first + k * step, first + k * step))

/-- The code points that differ from another one in case alone. -/
def caseVarying : List Nat :=
  (capitalRuns.flatMap fun run =>
    (List.range ((run.last - run.first) / run.stride + 1)).flatMap fun k =>
      let code := run.first + k * run.stride
      [code, Int.toNat (code + run.shift)]) ++
    foldedTogether.flatten ++ (List.range 0x30).map (0x1F80 + ·)

/-- The code points of a set and those that differ from one of them in case alone. -/
def withVariants (intervals : Intervals) : Intervals :=
  ofList (intervals ++ (caseVarying.filter intervals.contain).flatMap fun code =>
    (caseVariants (Char.ofNat code)).map fun c => (c.toNat, c.toNat))

end Intervals

def CharSet.intervals : CharSet → Intervals
  | .runs table => .ofRuns table
  | .complement set => set.intervals.complement
  | .union first second => first.intervals.union second.intervals
  | .intersection first second => first.intervals.intersection second.intervals
  | .ignoringCase set => set.intervals.withVariants

end Concord.Text
