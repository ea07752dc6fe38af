import Dispatch.Provider

/-!
# A provider that only pretends

For runs without a real provider: it answers after a drawn delay, fails at a given rate, and
otherwise charges for a drawn number of tokens.  The draws come from a linear congruential
generator, so equal seeds give equal answers.
-/

namespace Dispatch

/-- The state of a generator of 64-bit numbers. -/
structure Generator where
  state : Nat
deriving DecidableEq, Repr

/-- How many numbers the high bits distinguish. -/
def Generator.chances : Nat := 9007199254740992

/-- The next number below `bound`, taken from the high bits, where the period is longest. -/
def Generator.draw (g : Generator) (bound : Nat) : Nat × Generator :=
  let state := (g.state * 6364136223846793005 + 1442695040888963407) % 18446744073709551616
  (state / 2048 * bound / chances, ⟨state⟩)

/-- How a simulated provider behaves. -/
structure SimulatedProvider where
  minLatency : Span := .ofMillis 500
  /-- Delays are drawn from so many whole milliseconds above the least one. -/
  jitter : Span := .ofMillis 1400
  /-- The share of executions that fail, between zero and one. -/
  failureRate : Double := (Double.ofRatio? false 1 5).getD .zero

namespace SimulatedProvider

/-- The price of a token in dollars. -/
def tokenPrice : Double := (Double.ofRatio? false 1 100000).getD .zero

/-- A rate below zero means never and one above one means always. -/
def clampRate (rate : Double) : Double :=
  let (n, d) := rate.ratio
  if rate.negative then .zero
  else if d < n then (Double.ofInt? 1).getD .zero
  else rate

/-- The price of so many tokens. -/
def price (tokens : Nat) : Double :=
  let (n, d) := tokenPrice.ratio
  (Double.ofRatio? false (tokens * n) d).getD .zero

/-- The usage reported for a completion. -/
def usage (model : String) (tokens : Nat) : Usage :=
  { tokens := tokens
    cost := price tokens
    providerMeta := .obj [("provider", .str "mock-llm"), ("latency_source", .str "simulated"),
      ("model", .str model)] }

/-- Execute a request for a model. -/
def execute (p : SimulatedProvider) (model : String) (g : Generator) : Answer × Generator :=
  let (late, g) := g.draw (p.jitter.nanos / 1000000)
  let (chance, g) := g.draw Generator.chances
  let (more, g) := g.draw 500
  let (n, d) := p.failureRate.ratio
  let result :=
    if chance * d < n * Generator.chances then
      .error (.failed ("mock provider rejected model " ++ model))
    else .ok (usage model (200 + more))
  ({ delay := ⟨p.minLatency.nanos + (Span.ofMillis late).nanos⟩, result }, g)

end SimulatedProvider

end Dispatch
