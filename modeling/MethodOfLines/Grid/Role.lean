/-!
# Grid/Role — the four buffers of a grid and what each is for

A step keeps four buffers per grid: the state it starts from, two stage buffers that take turns, and
the running total of the stages so far. Stages alternate between the two stage buffers, so a stage
reads the one its predecessor wrote and writes the other.
-/

namespace MethodOfLines

/-- **The part a buffer plays in a step.** -/
inductive Role where
  /-- The state at the start of the step, and at its end. -/
  | state
  /-- Output of the first, third, … stage. -/
  | stageA
  /-- Output of the second, fourth, … stage. -/
  | stageB
  /-- The weighted sum of the rates so far. -/
  | total
  deriving DecidableEq, Repr

namespace Role

/-- The roles in the order of the buffers. -/
def all : List Role := [state, stageA, stageB, total]

/-- Position of a role among the buffers. -/
def index : Role → Nat
  | state => 0
  | stageA => 1
  | stageB => 2
  | total => 3

/-- Name of the buffer in messages. -/
def name : Role → String
  | state => "y_n"
  | stageA => "k_odd"
  | stageB => "k_even"
  | total => "y_nplus1_running_total"

/-- The stage buffer that stage `i`, counted from zero, writes. -/
def stageOutput (i : Nat) : Role :=
  if i % 2 = 0 then stageA else stageB

end Role

end MethodOfLines
