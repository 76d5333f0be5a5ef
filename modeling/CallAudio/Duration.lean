/-
  Spans of time.

  A span is counted in nanoseconds, without bound.  Two readings in milliseconds are
  needed:

  * `wholeMillis`, what a report prints: whole milliseconds, the rest dropped, and no
    more than a 64-bit word holds;
  * `waitMillis`, what a timer or a caller waits: nobody wakes early, so a started
    millisecond is waited out.
-/

namespace CallAudio

/-- A span of time. -/
structure Duration where
  /-- Its length in nanoseconds. -/
  nanos : Nat
deriving DecidableEq, Inhabited

namespace Duration

/-- Nanoseconds in a millisecond. -/
def nanosPerMilli : Nat := 1000000

/-- Nanoseconds in a second. -/
def nanosPerSecond : Nat := 1000000000

/-- The largest number of milliseconds a report prints. -/
def maxPrintedMillis : Nat := UInt64.size - 1

/-- The span of `ms` milliseconds. -/
def ofMillis (ms : Nat) : Duration := ⟨ms * nanosPerMilli⟩

/-- The span of `seconds` seconds and `nanos` nanoseconds. -/
def ofSeconds (seconds nanos : Nat) : Duration := ⟨seconds * nanosPerSecond + nanos⟩

/-- Whole seconds of the span. -/
def seconds (d : Duration) : Nat := d.nanos / nanosPerSecond

/-- Nanoseconds beyond the whole seconds. -/
def subsecondNanos (d : Duration) : Nat := d.nanos % nanosPerSecond

/-- Whole milliseconds, at most `maxPrintedMillis`. -/
def wholeMillis (d : Duration) : Nat := min (d.nanos / nanosPerMilli) maxPrintedMillis

/-- How long it takes to wait for the span, in milliseconds: the least number of them that is
    not shorter. -/
def waitMillis (d : Duration) : Nat := (d.nanos + (nanosPerMilli - 1)) / nanosPerMilli

@[simp] theorem waitMillis_ofMillis (ms : Nat) : (ofMillis ms).waitMillis = ms := by
  simp only [waitMillis, ofMillis, nanosPerMilli]; omega

theorem wholeMillis_ofMillis {ms : Nat} (h : ms ≤ maxPrintedMillis) :
    (ofMillis ms).wholeMillis = ms := by
  simp only [wholeMillis, ofMillis, nanosPerMilli, maxPrintedMillis] at *; omega

end Duration

end CallAudio
