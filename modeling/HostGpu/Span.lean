/-!
# Ranges of numbers

A span is a half-open range: mip levels, array layers, and bytes of buffers and descriptor data are
given as spans.
-/

namespace HostGpu

/-- A half-open range of numbers. -/
structure Span where
  start : Nat
  stop : Nat
deriving DecidableEq, Repr

namespace Span

def length (s : Span) : Nat := s.stop - s.start

def isEmpty (s : Span) : Bool := s.stop ≤ s.start

/-- The numbers of a span from its start on, with a given distance. -/
def steps (s : Span) (step : Nat) : List Nat :=
  List.range' s.start ((s.length + step - 1) / step) step

end Span

end HostGpu
