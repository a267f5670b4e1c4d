/-
Errors of the operating system.

The system reports a failure by number; the text of a message is the system's phrase for that number
followed by the number itself.

* `Uplink.OsError` — a failure, by number, with the numbers the library names;
* `Uplink.OsError.message` — its text.
-/

set_option relaxedAutoImplicit false
set_option autoImplicit false

namespace Uplink

/-- A failure reported by the operating system. -/
structure OsError where
  /-- The number of the failure. -/
  code : Nat
deriving DecidableEq, Repr

namespace OsError

/-- A path leads nowhere. -/
def notFound : OsError := ⟨2⟩
/-- The other side of a stream no longer takes bytes. -/
def brokenPipe : OsError := ⟨32⟩
/-- The other side of a stream was reset. -/
def connectionReset : OsError := ⟨104⟩
/-- Nobody listens at the address. -/
def connectionRefused : OsError := ⟨111⟩

/-- The system's phrase for a number. -/
def phrase (e : OsError) : String :=
  match e.code with
  | 1 => "Operation not permitted"
  | 2 => "No such file or directory"
  | 4 => "Interrupted system call"
  | 5 => "Input/output error"
  | 9 => "Bad file descriptor"
  | 11 => "Resource temporarily unavailable"
  | 12 => "Cannot allocate memory"
  | 13 => "Permission denied"
  | 16 => "Device or resource busy"
  | 22 => "Invalid argument"
  | 24 => "Too many open files"
  | 32 => "Broken pipe"
  | 92 => "Protocol not available"
  | 95 => "Operation not supported"
  | 97 => "Address family not supported by protocol"
  | 98 => "Address already in use"
  | 99 => "Cannot assign requested address"
  | 100 => "Network is down"
  | 101 => "Network is unreachable"
  | 103 => "Software caused connection abort"
  | 104 => "Connection reset by peer"
  | 105 => "No buffer space available"
  | 106 => "Transport endpoint is already connected"
  | 107 => "Transport endpoint is not connected"
  | 110 => "Connection timed out"
  | 111 => "Connection refused"
  | 112 => "Host is down"
  | 113 => "No route to host"
  | 114 => "Operation already in progress"
  | 115 => "Operation now in progress"
  | n => s!"Unknown error {n}"

/-- The text of a failure: the phrase and the number. -/
def message (e : OsError) : String := s!"{e.phrase} (os error {e.code})"

end OsError

end Uplink
