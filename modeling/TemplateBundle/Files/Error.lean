import TemplateBundle.Text.Utf8

/-! What can go wrong with files and streams. -/
namespace TemplateBundle

/-- Why a file or a stream cannot be used. -/
inductive IoError where
  /-- The operating system refuses, with a code -/
  | system (code : Nat)
  /-- A path holds a character that no path can hold -/
  | invalidPath
  /-- The bytes of a file are no text -/
  | notText
  /-- The bytes of a stream are no text -/
  | badEncoding (fault : Text.DecodingFault)
  | broken (message : String)
  deriving DecidableEq, Repr

namespace IoError

def systemMessages : List (Nat × String) := [
  (1, "Operation not permitted"), (2, "No such file or directory"),
  (4, "Interrupted system call"), (5, "Input/output error"), (9, "Bad file descriptor"),
  (11, "Resource temporarily unavailable"), (12, "Cannot allocate memory"),
  (13, "Permission denied"), (16, "Device or resource busy"), (17, "File exists"),
  (18, "Invalid cross-device link"), (20, "Not a directory"), (21, "Is a directory"),
  (22, "Invalid argument"), (23, "Too many open files in system"), (24, "Too many open files"),
  (26, "Text file busy"), (27, "File too large"), (28, "No space left on device"),
  (29, "Illegal seek"), (30, "Read-only file system"), (31, "Too many links"),
  (32, "Broken pipe"), (36, "File name too long"), (38, "Function not implemented"),
  (39, "Directory not empty"), (40, "Too many levels of symbolic links"),
  (104, "Connection reset by peer"), (110, "Connection timed out"), (111, "Connection refused"),
  (116, "Stale file handle"), (122, "Disk quota exceeded")]

def message : IoError → String
  | .system code =>
    (systemMessages.lookup code).getD ("Unknown error " ++ toString code) ++ " (os error " ++
      toString code ++ ")"
  | .invalidPath => "file name contained an unexpected NUL byte"
  | .notText => "stream did not contain valid UTF-8"
  | .badEncoding fault => fault.message
  | .broken message => message

def notFound : IoError := .system 2

def busy : IoError := .system 16

def alreadyExists : IoError := .system 17

def notADirectory : IoError := .system 20

def isADirectory : IoError := .system 21

def nameTooLong : IoError := .system 36

end IoError
end TemplateBundle
