import FrameLog.Transfer

/-!
# File headers

A magic word and the version of the format. Octets behind the header are no part of it, so
decoding ignores them.
-/

set_option autoImplicit false

namespace FrameLog

structure FileHeader where
  magic : UInt32
  version : UInt32
  deriving DecidableEq, Repr

namespace FileHeader

def size : Nat := 8

/-- The header of every file this library writes. The magic word spells "WAL!". -/
def current : FileHeader := ⟨0x57414C21, 1⟩

def encode (header : FileHeader) : Bytes :=
  Bytes.ofWord header.magic ++ Bytes.ofWord header.version

def decode : Bytes → Except Failure FileHeader
  | magic₀ :: magic₁ :: magic₂ :: magic₃ ::
      version₀ :: version₁ :: version₂ :: version₃ :: _ =>
      .ok ⟨Bytes.toWord magic₀ magic₁ magic₂ magic₃,
        Bytes.toWord version₀ version₁ version₂ version₃⟩
  | octets => .error (.corrupted (.shortFileHeader octets.length))

def check (header : FileHeader) : Except Failure Unit :=
  if header.magic ≠ current.magic then .error (.corrupted (.wrongMagic header.magic))
  else if header.version ≠ current.version then
    .error (.corrupted (.unsupportedVersion header.version))
  else .ok ()

@[simp] theorem length_encode (header : FileHeader) : header.encode.length = size := rfl

theorem decode_encode (header : FileHeader) (rest : Bytes) :
    decode (header.encode ++ rest) = .ok header := by
  simp only [encode, Bytes.ofWord, List.cons_append, List.nil_append, decode,
    Bytes.toWord_digits]

theorem decode_short {octets : Bytes} (short : octets.length < size) :
    decode octets = .error (.corrupted (.shortFileHeader octets.length)) := by
  unfold decode
  split
  · simp only [List.length_cons, size] at short
    omega
  · rfl

theorem check_eq_ok_iff {header : FileHeader} : header.check = .ok () ↔ header = current := by
  rcases header with ⟨magic, version⟩
  by_cases magicAgrees : magic = current.magic <;>
    by_cases versionAgrees : version = current.version <;>
    simp_all [check, current]

end FileHeader

def readFileHeader (file : Bytes) : Except Failure FileHeader :=
  match FileHeader.decode (Transfer.readFull [] file 0 FileHeader.size) with
  | .error failure => .error failure
  | .ok header =>
      match header.check with
      | .error failure => .error failure
      | .ok () => .ok header

end FrameLog
