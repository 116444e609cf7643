/-!
# Errors

The two error types of the crate: `IoError` for `std::io::Error`, as returned by
everything that moves packets, and `Error` for the crate's own error enumeration, as
returned by everything that configures a device.

An `IoError` is the code of a failed system call, or an error built by the library from an
`ErrorKind`: from nothing else, from a text, or from another `IoError`.
-/

namespace RustTun

/-- The numbers the operating system reports failures by. -/
abbrev Errno := Int

/-- The `std::io::ErrorKind`s the library builds errors of. -/
inductive ErrorKind where
  | invalidInput
  | invalidData
  | alreadyExists
  | brokenPipe
  | connectionAborted
  | wouldBlock
  | other
deriving DecidableEq, Repr

/-- `std::io::Error`. -/
inductive IoError where
  | /-- `io::Error::last_os_error()` or `from_raw_os_error`. -/ os (errno : Errno)
  | /-- `kind.into()`. -/ simple (kind : ErrorKind)
  | /-- `io::Error::new(kind, text)`. -/ new (kind : ErrorKind) (text : String)
  | /-- `io::Error::new(kind, err)`. -/ wrap (kind : ErrorKind) (err : IoError)
deriving DecidableEq, Repr

/-- `io::Error::raw_os_error`. -/
def IoError.rawOsError : IoError → Option Errno
  | .os errno => some errno
  | .simple _ | .new _ _ | .wrap _ _ => none

/-- `wintun::Error`. -/
inductive Windows.WintunError where
  | io (err : IoError)
  | other (text : String)
deriving DecidableEq, Repr

/-- `crate::error::Error`. -/
inductive Error where
  | invalidConfig
  | notImplemented
  | nameTooLong
  | invalidName
  | invalidAddress
  | invalidDescriptor
  | unsupportedLayer
  | invalidQueuesNumber
  | tryFromIntError
  | io (err : IoError)
  | nul
  | parseNum
  | wintunError (err : Windows.WintunError)
  | string (text : String)
deriving DecidableEq, Repr

end RustTun
