import Docket.Cache.Key
import Docket.Proofs.Value.Canonical
import Mathlib.Data.List.Nodup
import Mathlib.Tactic.Lemma

/-!
# Keys tell queries apart

A cache looks a document up under a digest, so a wrong document is handed out as soon as two queries
share a key.  They do so only if two byte strings share a digest: the bytes that are digested, those
of a context and those of a key, determine what they were made from.

The digests of all byte strings cannot be different.  `Digest.CollisionFree` therefore speaks of the
byte strings that are digested at all, and every theorem that rests on it names them.
-/

namespace Docket

/-! ## Digests -/

namespace Digest

/-- No two of these byte strings share a digest. -/
def CollisionFree (messages : List (List UInt8)) : Prop :=
  ∀ a ∈ messages, ∀ b ∈ messages, sha256 a = sha256 b → a = b

lemma CollisionFree.mono {few many : List (List UInt8)} (h : CollisionFree many)
    (hsub : few ⊆ many) : CollisionFree few :=
  fun a ha b hb => h a (hsub ha) b (hsub hb)

/-- It is enough to compute the digests, if none comes twice. -/
lemma collisionFree_of_nodup {messages : List (List UInt8)} (h : (messages.map sha256).Nodup) :
    CollisionFree messages :=
  fun _ ha _ hb => List.inj_on_of_nodup_map h ha hb

lemma textBytes_injective {s t : String} (h : textBytes s = textBytes t) : s = t := by
  rw [textBytes, textBytes, Array.toList_inj] at h
  exact String.toByteArray_inj.mp (ByteArray.ext h)

lemma hex_injective {bytes bytes' : List UInt8} (h : hex bytes = hex bytes') :
    bytes = bytes' := by
  have hdigit : ∀ n < 16, ∀ m < 16, Nat.digitChar n = Nat.digitChar m → n = m := by decide
  induction bytes generalizing bytes' with
  | nil =>
      cases bytes' with
      | nil => rfl
      | cons b' bytes' => simp [hex] at h
  | cons b bytes ih =>
      cases bytes' with
      | nil => simp [hex] at h
      | cons b' bytes' =>
          simp only [hex, List.flatMap_cons, List.cons_append, List.nil_append,
            List.cons.injEq] at h
          obtain ⟨hhigh, hlow, hrest⟩ := h
          have hb : b.toNat < 256 := b.toNat_lt
          have hb' : b'.toNat < 256 := b'.toNat_lt
          have hdiv := hdigit _ (by omega) _ (by omega) hhigh
          have hmod := hdigit _ (by omega) _ (by omega) hlow
          have heq : b = b' := UInt8.toNat_inj.mp (by omega)
          rw [heq, ih hrest]

/-- Two byte strings with one fingerprint are the same, unless they collide. -/
lemma eq_of_fingerprint {messages : List (List UInt8)} (h : CollisionFree messages)
    {a b : List UInt8} (ha : a ∈ messages) (hb : b ∈ messages)
    (heq : fingerprint a = fingerprint b) : a = b :=
  h a ha b hb (hex_injective (String.ofList_inj.mp heq))

end Digest

/-! ## Framed parts -/

namespace Cache

open Digest (textBytes)

lemma length_littleEndian (count n : Nat) : (littleEndian count n).length = count := by
  induction count generalizing n with
  | zero => rfl
  | succ count ih => rw [littleEndian, List.length_cons, ih]

lemma littleEndian_injective {count n m : Nat} (hn : n < 256 ^ count) (hm : m < 256 ^ count)
    (h : littleEndian count n = littleEndian count m) : n = m := by
  induction count generalizing n m with
  | zero =>
      rw [Nat.pow_zero, Nat.lt_one_iff] at hn hm
      rw [hn, hm]
  | succ count ih =>
      rw [littleEndian, littleEndian, List.cons.injEq] at h
      have hlow := congrArg UInt8.toNat h.1
      simp only [UInt8.toNat_ofNat'] at hlow
      rw [Nat.pow_succ] at hn hm
      have hhigh := ih (by omega) (by omega) h.2
      omega

/-- A text whose length eight bytes can tell. -/
def Frameable (s : String) : Prop := (textBytes s).length < 256 ^ 8

instance (s : String) : Decidable (Frameable s) :=
  inferInstanceAs (Decidable ((textBytes s).length < 256 ^ 8))

/-- A framed part ends where its length says. -/
lemma framed_append_inj {s t : String} {r r' : List UInt8} (hs : Frameable s) (ht : Frameable t)
    (h : framed s ++ r = framed t ++ r') : s = t ∧ r = r' := by
  simp only [framed, List.append_assoc] at h
  obtain ⟨hlength, hbytes⟩ := List.append_inj h (by simp only [length_littleEndian])
  obtain ⟨htext, hrest⟩ := List.append_inj hbytes (littleEndian_injective hs ht hlength)
  exact ⟨Digest.textBytes_injective htext, hrest⟩

lemma frameable_name (strictness : Strictness) : Frameable strictness.name := by
  cases strictness <;> decide

lemma name_injective {a b : Strictness} (h : a.name = b.name) : a = b := by
  cases a <;> cases b <;> simp_all [Strictness.name]

end Cache

/-! ## Queries -/

/-- A request and a context as a program holds them: texts have lengths of 64 bits, maps have their
keys in order, each once, and numbers are finite. -/
structure Query where
  request : Request
  context : Context
  platform_frameable : Cache.Frameable request.platform
  documentType_frameable : Cache.Frameable request.documentType
  techStack_frameable : Cache.Frameable request.techStack
  context_settled : context.value.settled = context.value
  context_finite : context.value.isFinite

namespace Query

/-- The key that the document of a query is kept under. -/
def key (q : Query) : String := Cache.key q.request q.context

/-- The byte strings that are digested for the key of a query. -/
def hashed (q : Query) : List (List UInt8) :=
  [q.context.bytes, Cache.keyBytes q.request q.context]

lemma context_eq_of_bytes {p q : Query} (h : p.context.bytes = q.context.bytes) :
    p.context = q.context := by
  have htext := Digest.textBytes_injective h
  rw [p.context_settled, q.context_settled, String.ofList_inj] at htext
  have hvalue := Context.canonical_injective p.context_finite q.context_finite htext
  exact congrArg Context.mk (Value.map.inj hvalue)

/-- The bytes of a key determine the request and the fingerprint of the context. -/
lemma parts_eq_of_keyBytes {p q : Query}
    (h : Cache.keyBytes p.request p.context = Cache.keyBytes q.request q.context) :
    p.request = q.request ∧ p.context.fingerprint = q.context.fingerprint := by
  simp only [Cache.keyBytes, Cache.keyParts, List.flatMap_cons, List.flatMap_nil,
    List.append_nil] at h
  obtain ⟨hplatform, h⟩ := Cache.framed_append_inj p.platform_frameable q.platform_frameable h
  obtain ⟨htype, h⟩ := Cache.framed_append_inj p.documentType_frameable q.documentType_frameable h
  obtain ⟨hstack, h⟩ := Cache.framed_append_inj p.techStack_frameable q.techStack_frameable h
  obtain ⟨hname, h⟩ :=
    Cache.framed_append_inj (Cache.frameable_name _) (Cache.frameable_name _) h
  -- The last part has nothing behind it, so its length need not be told.
  have hbytes := (List.append_inj h (by simp only [Cache.length_littleEndian])).2
  refine ⟨?_, Digest.textBytes_injective hbytes⟩
  have hstrictness := Cache.name_injective hname
  rcases hp : p.request with ⟨platform, documentType, techStack, strictness⟩
  rw [hp] at hplatform htype hstack hstrictness
  dsimp only at hplatform htype hstack hstrictness
  rw [hplatform, htype, hstack, hstrictness]

/-- **Queries with one key are one query**, unless two of their byte strings collide. -/
theorem eq_of_key {messages : List (List UInt8)} (h : Digest.CollisionFree messages) {p q : Query}
    (hp : p.hashed ⊆ messages) (hq : q.hashed ⊆ messages) (hkey : p.key = q.key) :
    p.request = q.request ∧ p.context = q.context := by
  have hbytes := Digest.eq_of_fingerprint h (hp (by simp [hashed])) (hq (by simp [hashed])) hkey
  obtain ⟨hrequest, hfingerprint⟩ := parts_eq_of_keyBytes hbytes
  have hcontext := Digest.eq_of_fingerprint h (hp (by simp [hashed])) (hq (by simp [hashed]))
    hfingerprint
  exact ⟨hrequest, context_eq_of_bytes hcontext⟩

end Query

end Docket
