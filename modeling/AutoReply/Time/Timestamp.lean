/-!
Points in time with leap seconds, and the time between two of them.
-/

namespace AutoReply.Time

def nanosInSecond : Nat := 1000000000

/-- Seconds since the first of January 1970 and nanoseconds after them. Inside a leap second, which
repeats the number of the second before it, the nanoseconds are `nanosInSecond` or more. -/
structure Timestamp where
  seconds : Int
  nanos : Nat
  deriving DecidableEq, Repr

namespace Timestamp

def secondOfDay (time : Timestamp) : Int :=
  time.seconds % 86400

def isLeap (time : Timestamp) : Bool :=
  nanosInSecond ≤ time.nanos

/-- The leap second that lies between two points of the clock, which their numbers leave out. -/
def leapBetween (earlier later : Timestamp) : Int :=
  if earlier.secondOfDay < later.secondOfDay && earlier.isLeap then 1
  else if later.secondOfDay < earlier.secondOfDay && later.isLeap then -1
  else 0

/-- Nanoseconds from `earlier` to `later`, negative when they come in the other order. -/
def nanosSince (later earlier : Timestamp) : Int :=
  (later.seconds - earlier.seconds + leapBetween earlier later) * nanosInSecond +
    (later.nanos - earlier.nanos)

def isValid (time : Timestamp) : Bool :=
  time.nanos < 2 * nanosInSecond && (!time.isLeap || time.seconds % 60 == 59)

end Timestamp

end AutoReply.Time
