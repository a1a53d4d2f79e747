import Chip8.Memory

/-!
# Programs to load

A program is a list of bytes. It fits if it ends where memory ends.
-/

namespace Chip8

/-- Where programs are placed. -/
def loadAddress : Address := 0x200

abbrev Rom := List Byte

def Rom.capacity : Nat := Memory.size - loadAddress.toNat

/-- What the system says about a file that cannot be read. -/
structure SystemError where
  code : Nat
  text : String
deriving DecidableEq, Repr

namespace SystemError

def notFound : SystemError := ⟨2, "No such file or directory"⟩

def permissionDenied : SystemError := ⟨13, "Permission denied"⟩

def notDirectory : SystemError := ⟨20, "Not a directory"⟩

def isDirectory : SystemError := ⟨21, "Is a directory"⟩

def nameTooLong : SystemError := ⟨36, "File name too long"⟩

def tooManyLinks : SystemError := ⟨40, "Too many levels of symbolic links"⟩

/-- The error of a code, in its usual words where the code is a usual one. -/
def ofCode (code : Nat) (text : String) : SystemError :=
  let usual := [notFound, permissionDenied, notDirectory, isDirectory, nameTooLong, tooManyLinks]
  (usual.find? fun error => error.code == code).getD ⟨code, text⟩

def message (error : SystemError) : String :=
  error.text ++ " (os error " ++ toString error.code ++ ")"

end SystemError

/-- Why a program could not be put in place. -/
inductive RomError where
  | tooLarge (size limit : Nat)
  | unreadable (path : String) (cause : SystemError)
deriving DecidableEq, Repr

namespace RomError

def message : RomError → String
  | .tooLarge size limit =>
      "ROM is too large (" ++ toString size ++ " bytes), max size is " ++ toString limit ++ " bytes"
  | .unreadable path _ => "could not read ROM " ++ path

/-- The message and those of the causes behind it. -/
def chain : RomError → List String
  | error@(.tooLarge _ _) => [error.message]
  | error@(.unreadable _ cause) => [error.message, cause.message]

end RomError

/-- Reads a program from a file, refusing one that does not fit. -/
def Rom.load (read : String → Except SystemError (List Byte)) (path : String) :
    Except RomError Rom :=
  match read path with
  | .error cause => .error (.unreadable path cause)
  | .ok bytes =>
      if Rom.capacity < bytes.length then .error (.tooLarge bytes.length Rom.capacity)
      else .ok bytes

theorem Rom.capacity_eq : Rom.capacity = 3584 := rfl

/-- A program that fits ends inside memory. -/
theorem loadAddress_add_le {rom : Rom} (fits : rom.length ≤ Rom.capacity) :
    loadAddress.toNat + rom.length ≤ Memory.size :=
  Nat.add_le_of_le_sub' (by decide) fits

end Chip8
