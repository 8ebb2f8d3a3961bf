import MappedCoverage.Shared
import MappedCoverage.Sorted

/-!
# Coverage

How often each construct of each file was executed. Files and constructs are in the order of their
characters. A counter holds 64 bits; counting beyond that has no result.
-/

namespace MappedCoverage

/-- Hits by construct. -/
abbrev Counters := List (String × Nat)

namespace Counters

/-- The greatest value of a counter. -/
def limit : Nat := 0xFFFF_FFFF_FFFF_FFFF

/-- The hits of a construct; one that is not listed has none. -/
def hits (counters : Counters) (construct : String) : Nat :=
  (Sorted.get? compare construct counters).getD 0

/-- Whether a construct is listed. -/
def lists (counters : Counters) (construct : String) : Bool :=
  (Sorted.get? compare construct counters).isSome

/-- Adds hits to a construct. -/
def add? (counters : Counters) (construct : String) (count : Nat) : Option Counters :=
  let sum := counters.hits construct + count
  if sum ≤ limit then some (Sorted.insert compare construct sum counters) else none

/-- Lists a construct. -/
def declare (counters : Counters) (construct : String) : Counters :=
  if counters.lists construct then counters else Sorted.insert compare construct 0 counters

/-- Adds the hits of other counters. -/
def merge? (counters other : Counters) : Option Counters :=
  other.foldlM (fun merged entry => merged.add? entry.1 entry.2) counters

end Counters

/-- Counters by file. -/
structure Coverage where
  files : List (String × Counters)
deriving DecidableEq

namespace Coverage

/-- Coverage of no file. -/
def empty : Coverage := ⟨[]⟩

/-- The counters of a file. -/
def file? (coverage : Coverage) (file : String) : Option Counters :=
  Sorted.get? compare file coverage.files

/-- The counters of a file; a file that is not listed has none. -/
def counters (coverage : Coverage) (file : String) : Counters :=
  (coverage.file? file).getD []

/-- Replaces the counters of a file. -/
def setCounters (coverage : Coverage) (file : String) (counters : Counters) : Coverage :=
  ⟨Sorted.insert compare file counters coverage.files⟩

/-- The hits of a construct of a file. -/
def hits (coverage : Coverage) (file construct : String) : Nat :=
  (coverage.counters file).hits construct

/-- Counts one execution. -/
def increment? (coverage : Coverage) (file construct : String) : Option Coverage := do
  let counted ← (coverage.counters file).add? construct 1
  return coverage.setCounters file counted

/-- Lists a construct, which shows up as not executed until it is. -/
def declare (coverage : Coverage) (file construct : String) : Coverage :=
  coverage.setCounters file ((coverage.counters file).declare construct)

/-- The files in order. -/
def fileNames (coverage : Coverage) : List String :=
  coverage.files.map (·.1)

/-- Adds every counter of another coverage. -/
def merge? (coverage other : Coverage) : Option Coverage :=
  other.files.foldlM
    (fun merged entry => do
      let counters ← (merged.counters entry.1).merge? entry.2
      return merged.setCounters entry.1 counters)
    coverage

end Coverage

/-- What executing code reports. -/
inductive Recording where
  | hit (file construct : String)
  | declaration (file construct : String)
deriving DecidableEq

/-- The coverage after a recording. -/
def Coverage.record? (coverage : Coverage) : Recording → Option Coverage
  | .hit file construct => coverage.increment? file construct
  | .declaration file construct => some (coverage.declare file construct)

/-- The coverage after recordings, one after another. -/
def Coverage.recordAll? (coverage : Coverage) (recordings : List Recording) : Option Coverage :=
  recordings.foldlM Coverage.record? coverage

/-- Where executing code records, under the name that it knows. -/
structure Sink where
  name : String
  coverage : Coverage

/-- A sink that nothing was recorded in. -/
def Sink.named (name : String) : Sink := ⟨name, .empty⟩

/-- Sinks behind named handles. -/
abbrev Sinks := Shared String Sink

namespace Sinks

/-- Records through a handle, in the sink that it leads to. -/
def record? (sinks : Sinks) (handle : String) (recording : Recording) : Option Sinks :=
  match sinks.get? handle with
  | none => some sinks
  | some sink => do
      let coverage ← sink.coverage.record? recording
      return sinks.set handle { sink with coverage }

/-- What was recorded so far in the sink that a handle leads to. -/
def snapshot (sinks : Sinks) (handle : String) : Coverage :=
  ((sinks.get? handle).map (·.coverage)).getD .empty

end Sinks

end MappedCoverage
