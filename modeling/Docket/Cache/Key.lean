import Docket.Context
import Docket.Request

/-!
# Cache keys

The key of a request and a context is one digest of the request's parts and the fingerprint of the
context. Every part is preceded by its length, so that no two lists of parts run into the same
bytes.
-/

namespace Docket.Cache

/-- The bytes of a number in the given count, the lowest first. -/
def littleEndian : (count : Nat) → Nat → List UInt8
  | 0, _ => []
  | count + 1, n => UInt8.ofNat (n % 256) :: littleEndian count (n / 256)

/-- One part: its length in eight bytes, then the part itself. -/
def framed (part : String) : List UInt8 :=
  let bytes := Digest.textBytes part
  littleEndian 8 bytes.length ++ bytes

/-- The parts of a key. -/
def keyParts (r : Request) (c : Context) : List String :=
  [r.platform, r.documentType, r.techStack, r.strictness.name, c.fingerprint]

/-- The bytes that a key is the digest of. -/
def keyBytes (r : Request) (c : Context) : List UInt8 := (keyParts r c).flatMap framed

/-- The key of a request and a context. -/
def key (r : Request) (c : Context) : String := Digest.fingerprint (keyBytes r c)

end Docket.Cache
