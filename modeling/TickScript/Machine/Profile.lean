import TickScript.Bytecode.Opcode
import TickScript.Number.Decimal

/-! # Instruction counts

    An enabled profile counts how often each opcode ran, how many redirects found nobody and how
    deep the stack was.  A disabled one ignores everything.
-/

namespace TickScript

/-- **Instruction counts of a machine.** -/
structure Profile where
  enabled : Bool
  total : Nat
  /-- How often each opcode ran, for those that did, in order of their bytes. -/
  counts : List (UInt8 × Nat)
  failedRedirects : Nat
  /-- The greatest stack length seen before an instruction. -/
  maxDepth : Nat
  deriving DecidableEq, Inhabited

namespace Profile

/-- Counts nothing. -/
def off : Profile := ⟨false, 0, [], 0, 0⟩

/-- Counts from zero. -/
def on : Profile := { off with enabled := true }

/-- Forgets the counts. -/
def reset (p : Profile) : Profile := { off with enabled := p.enabled }

/-- One more occurrence of a byte. -/
def bump (b : UInt8) : List (UInt8 × Nat) → List (UInt8 × Nat)
  | [] => [(b, 1)]
  | e :: rest =>
    if b < e.1 then (b, 1) :: e :: rest
    else if b = e.1 then (b, e.2 + 1) :: rest
    else e :: bump b rest

/-- An instruction that runs with the given stack length. -/
def record (p : Profile) (o : Opcode) (depth : Nat) : Profile :=
  if p.enabled then
    { p with total := p.total + 1, counts := bump o.toByte p.counts,
             maxDepth := max p.maxDepth depth }
  else p

/-- A redirect that found nobody. -/
def recordFailedRedirect (p : Profile) : Profile :=
  if p.enabled then { p with failedRedirects := p.failedRedirects + 1 } else p

/-- How often an opcode ran. -/
def count (p : Profile) (o : Opcode) : Nat :=
  ((p.counts.find? fun e => e.1 == o.toByte).map (·.2)).getD 0

/-! ## Report -/

def padRight (width : Nat) (s : String) : String :=
  s ++ String.ofList (List.replicate (width - s.length) ' ')

def padLeft (width : Nat) (s : String) : String :=
  String.ofList (List.replicate (width - s.length) ' ') ++ s

/-- A share of the whole in percent, with one decimal. -/
def percentage (part whole : Nat) : String :=
  let share := (UInt64.ofNat part).toFloat / (UInt64.ofNat whole).toFloat
  let percent := share * (UInt64.ofNat 100).toFloat
  if percent.isNaN then "NaN" else Decimal.fixed 1 (Double.scaled percent)

/-- The line of one opcode. -/
def line (total : Nat) (e : UInt8 × Nat) : String :=
  let name := ((Opcode.ofByte? e.1).map Opcode.name).getD ""
  "  " ++ padRight 16 name ++ " " ++ padLeft 8 (toString e.2) ++ " (" ++
    padLeft 5 (percentage e.2 total) ++ "%)\n"

/-- **Report**: three totals, then the opcodes from the most to the least frequent, equally
    frequent ones in order of their bytes. -/
def report (p : Profile) : String :=
  let ranked := p.counts.mergeSort fun a b => b.2 ≤ a.2
  s!"instructions: {p.total}\nmax stack depth: {p.maxDepth}\n" ++
    s!"failed redirects: {p.failedRedirects}\n" ++
    String.join (ranked.map (line p.total))

end Profile
end TickScript
