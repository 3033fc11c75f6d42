import Docket.Proofs.Cache.Key
import Docket.Proofs.Value.Same

/-!
# Keys separate exactly the inputs that differ

`Query.eq_of_key` speaks of contexts whose maps have their keys in order.  A context may be given
with its keys in any order and with keys repeated, so here contexts are compared as data
(`Value.Same`), and keys are equal exactly if requests and data are (`Cache.key_eq_iff`).

The digested bytes of a context are those of its settled form (`Context.bytes_settle`), so a key
does not depend on the order of keys; and in settled form a context is one that a query may have, so
the bytes determine the data.
-/

namespace Docket

/-! ## Finite data -/

namespace Value

lemma isFinite_list_iff {items : List Value} : (list items).isFinite ↔ ∀ v ∈ items, v.isFinite := by
  rw [isFinite]
  induction items with
  | nil => simp [itemsFinite]
  | cons v rest ih => simp [itemsFinite, ih]

lemma isFinite_map_iff {entries : List (String × Value)} :
    (map entries).isFinite ↔ ∀ e ∈ entries, e.2.isFinite := by
  rw [isFinite]
  induction entries with
  | nil => simp [entriesFinite]
  | cons e rest ih => simp [entriesFinite, ih]

lemma isFinite_settled {v : Value} (h : v.isFinite) : v.settled.isFinite := by
  induction v using induction_parts with
  | null | bool | number | text => exact h
  | list items ih =>
      rw [isFinite_list_iff] at h
      rw [settled, isFinite_list_iff, settledItems_eq]
      exact List.forall_mem_map.mpr fun v hv => ih v hv (h v hv)
  | map entries ih =>
      rw [isFinite_map_iff] at h
      rw [settled, mapOf, isFinite_map_iff]
      intro e he
      obtain ⟨e', he', rfl⟩ := mem_sortEntries_settled he
      exact ih e' he' (h e' he')

end Value

/-! ## Settled contexts -/

namespace Context

/-- The same data with the keys of every map in order, each once. -/
def settle (c : Context) : Context := ⟨Value.sortEntries (Value.settledEntries c.entries)⟩

lemma value_settle (c : Context) : c.settle.value = c.value.settled := rfl

lemma bytes_settle (c : Context) : c.settle.bytes = c.bytes := by
  rw [bytes, bytes, value_settle, Value.settled_settled]

lemma fingerprint_settle (c : Context) : c.settle.fingerprint = c.fingerprint := by
  rw [fingerprint, fingerprint, bytes_settle]

/-- The bytes of a context determine its data. -/
lemma bytes_eq_iff {c c' : Context} (hc : c.value.isFinite) (hc' : c'.value.isFinite) :
    c.bytes = c'.bytes ↔ Value.Same c.value c'.value := by
  rw [Value.same_iff_settled, bytes, bytes]
  constructor
  · intro h
    have htext := String.ofList_inj.mp (Digest.textBytes_injective h)
    exact canonical_injective (Value.isFinite_settled hc) (Value.isFinite_settled hc') htext
  · intro h
    rw [h]

end Context

/-- A request whose texts have lengths that eight bytes can tell. -/
structure Request.Frameable (r : Request) : Prop where
  platform : Cache.Frameable r.platform
  documentType : Cache.Frameable r.documentType
  techStack : Cache.Frameable r.techStack

/-- The query of a request and a context that may be given with its keys in any order. -/
def Query.ofGiven {r : Request} {c : Context} (hr : r.Frameable) (hc : c.value.isFinite) :
    Query where
  request := r
  context := c.settle
  platform_frameable := hr.platform
  documentType_frameable := hr.documentType
  techStack_frameable := hr.techStack
  context_settled := Value.settled_settled c.value
  context_finite := Value.isFinite_settled hc

/-! ## Keys -/

namespace Cache

lemma keyBytes_settle (r : Request) (c : Context) : keyBytes r c.settle = keyBytes r c := by
  simp only [keyBytes, keyParts, Context.fingerprint_settle]

variable {r r' : Request} {c c' : Context}

/-- The bytes of a key determine its parts. -/
lemma keyBytes_eq_iff (hr : r.Frameable) (hr' : r'.Frameable) (hc : c.value.isFinite)
    (hc' : c'.value.isFinite) : keyBytes r c = keyBytes r' c' ↔ keyParts r c = keyParts r' c' := by
  constructor
  · intro h
    rw [← keyBytes_settle r, ← keyBytes_settle r'] at h
    obtain ⟨hrequest, hfingerprint⟩ :=
      Query.parts_eq_of_keyBytes (p := Query.ofGiven hr hc) (q := Query.ofGiven hr' hc') h
    have hsame : r = r' := hrequest
    have hprint : c.settle.fingerprint = c'.settle.fingerprint := hfingerprint
    rw [c.fingerprint_settle, c'.fingerprint_settle] at hprint
    rw [keyParts, keyParts, hsame, hprint]
  · intro h
    rw [keyBytes, keyBytes, h]

/-- Equal keys come from equal requests and equal data, unless two of the digested byte strings
collide. -/
lemma same_of_key_eq (hr : r.Frameable) (hr' : r'.Frameable) (hc : c.value.isFinite)
    (hc' : c'.value.isFinite)
    (hdigest : Digest.CollisionFree [c.bytes, keyBytes r c, c'.bytes, keyBytes r' c'])
    (h : key r c = key r' c') : r = r' ∧ Value.Same c.value c'.value := by
  have hbytes : keyBytes r c = keyBytes r' c' :=
    Digest.eq_of_fingerprint hdigest (by simp) (by simp) h
  rw [keyBytes_eq_iff hr hr' hc hc', keyParts, keyParts] at hbytes
  simp only [List.cons.injEq, and_true] at hbytes
  obtain ⟨hplatform, htype, hstack, hstrictness, hfingerprint⟩ := hbytes
  have hdata : c.bytes = c'.bytes :=
    Digest.eq_of_fingerprint hdigest (by simp) (by simp) hfingerprint
  refine ⟨?_, (Context.bytes_eq_iff hc hc').mp hdata⟩
  obtain ⟨platform, documentType, techStack, strictness⟩ := r
  obtain rfl : platform = r'.platform := hplatform
  obtain rfl : documentType = r'.documentType := htype
  obtain rfl : techStack = r'.techStack := hstack
  obtain rfl : strictness = r'.strictness := name_injective hstrictness
  rfl

/-- **Keys separate all inputs.**  Two requests with their contexts have one key exactly if they
agree in platform, document type, technology stack and strictness and the contexts are equal data
(`Value.Same`), in whatever order their keys were given.  The digests are asked only not to collide
on the four byte strings that are digested; that the bytes of a context determine its data, and
those of a key its five parts, holds without that. -/
theorem key_eq_iff (hr : r.Frameable) (hr' : r'.Frameable) (hc : c.value.isFinite)
    (hc' : c'.value.isFinite)
    (hdigest : Digest.CollisionFree [c.bytes, keyBytes r c, c'.bytes, keyBytes r' c']) :
    (key r c = key r' c' ↔
        (r.platform = r'.platform ∧ r.documentType = r'.documentType ∧
          r.techStack = r'.techStack ∧ r.strictness = r'.strictness) ∧
        Value.Same c.value c'.value) ∧
      (c.bytes = c'.bytes ↔ Value.Same c.value c'.value) ∧
      (keyBytes r c = keyBytes r' c' ↔ keyParts r c = keyParts r' c') := by
  refine ⟨⟨?_, ?_⟩, Context.bytes_eq_iff hc hc', keyBytes_eq_iff hr hr' hc hc'⟩
  · intro h
    obtain ⟨rfl, hsame⟩ := same_of_key_eq hr hr' hc hc' hdigest h
    exact ⟨⟨rfl, rfl, rfl, rfl⟩, hsame⟩
  · rintro ⟨⟨hplatform, htype, hstack, hstrictness⟩, hsame⟩
    have hfingerprint : c.fingerprint = c'.fingerprint := by
      rw [Context.fingerprint, Context.fingerprint, (Context.bytes_eq_iff hc hc').mpr hsame]
    simp only [key, keyBytes, keyParts, hplatform, htype, hstack, hstrictness, hfingerprint]

/-! ## Two spellings of one context -/

/-- A request for a bug template. -/
def crashRequest : Request := ⟨"jira", "bug", "rust", .strict⟩

/-- A context with a map below a list, and a key that is given twice. -/
def crashContext : Context :=
  ⟨[("title", .text "draft"), ("seen", .list [.map [("on", .null), ("by", .number (.whole 1))]]),
    ("title", .text "crash")]⟩

/-- The same data with its keys in another order. -/
def crashReordered : Context :=
  ⟨[("title", .text "crash"), ("seen", .list [.map [("by", .number (.whole 1)), ("on", .null)]])]⟩

lemma crashRequest_frameable : crashRequest.Frameable where
  platform := show Frameable "jira" by decide
  documentType := show Frameable "bug" by decide
  techStack := show Frameable "rust" by decide

lemma crash_same : Value.Same crashContext.value crashReordered.value :=
  Value.same_iff_settled.mpr rfl

lemma crash_collisionFree :
    Digest.CollisionFree [crashContext.bytes, keyBytes crashRequest crashContext,
      crashReordered.bytes, keyBytes crashRequest crashReordered] := by
  have hnodup : ([crashContext.bytes, keyBytes crashRequest crashContext].map
      Digest.sha256).Nodup := by decide +kernel
  -- the reordered context is digested to the same bytes
  have hsettle : crashReordered.settle = crashContext.settle := rfl
  rw [← crashReordered.bytes_settle, ← keyBytes_settle _ crashReordered, hsettle,
    crashContext.bytes_settle, keyBytes_settle]
  have hsub (a b : List UInt8) : [a, b, a, b] ⊆ [a, b] := by simp
  exact (Digest.collisionFree_of_nodup hnodup).mono (hsub _ _)

theorem key_eq_iff_crash :
    crashRequest.Frameable ∧ crashContext.value.isFinite ∧ crashReordered.value.isFinite ∧
      Digest.CollisionFree [crashContext.bytes, keyBytes crashRequest crashContext,
        crashReordered.bytes, keyBytes crashRequest crashReordered] ∧
      key crashRequest crashContext = key crashRequest crashReordered := by
  have hfinite : crashContext.value.isFinite := by decide
  have hfinite' : crashReordered.value.isFinite := by decide
  refine ⟨crashRequest_frameable, hfinite, hfinite', crash_collisionFree, ?_⟩
  exact (key_eq_iff crashRequest_frameable crashRequest_frameable hfinite hfinite'
    crash_collisionFree).1.mpr ⟨⟨rfl, rfl, rfl, rfl⟩, crash_same⟩

end Cache

end Docket
