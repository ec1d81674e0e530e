import RecordGateway.Proofs.Record.Accepting

/-!
# Documents that are cut off

A document ends with its closing bracket, wherever that stands: nothing shorter is a document, and
nothing but blanks may follow.  So no record is decoded from bytes that end before the bracket, and
no field of them is found fault with either.
-/

namespace RecordGateway

namespace Document

open Json

variable {s rest w : List UInt8} {d : Document}

/-! ## The closing bracket -/

/-- The bytes end with a closing bracket. -/
def EndsClosed (s : List UInt8) : Prop := ∃ t b, s = t ++ [b] ∧ (b = byte ']' ∨ b = byte '}')

theorem endsClosed_list (s : List UInt8) : EndsClosed (s ++ [byte ']']) := ⟨s, _, rfl, .inl rfl⟩

theorem endsClosed_object (s : List UInt8) : EndsClosed (s ++ [byte '}']) := ⟨s, _, rfl, .inr rfl⟩

theorem EndsClosed.append {t : List UInt8} (s : List UInt8) (ht : EndsClosed t) :
    EndsClosed (s ++ t) := by
  obtain ⟨u, b, rfl, hb⟩ := ht
  exact ⟨s ++ u, b, (List.append_assoc s u [b]).symm, hb⟩

theorem endsClosed_of_tail {α : Type} {Member : α → List UInt8 → Prop} {as : List α}
    (ht : IsObjectTail Member as s) : EndsClosed s := by
  induction ht with
  | close _ => exact endsClosed_object _
  | comma _ _ _ _ ih => exact ih.append _

theorem endsClosed_of_isObject {α : Type} {Member : α → List UInt8 → Prop} {as : List α}
    (hs : IsObject Member as s) : EndsClosed s := by
  cases hs with
  | empty _ => exact endsClosed_object _
  | filled _ _ ht => exact (endsClosed_of_tail ht).append _

theorem IsDocument.endsClosed (hs : IsDocument d s) : EndsClosed s := by
  cases hs with
  | object hs _ _ => exact (endsClosed_of_isObject hs).append [byte '{']
  | none _ | table _ _ _ | both _ _ _ _ _ _ => exact endsClosed_list _

/-! ## What follows a document -/

/-- Where a document ends does not depend on what follows it: bytes that begin with two documents
begin with one. -/
theorem IsDocument.rest_eq {d' : Document} {s' w' rest' : List UInt8} (hw : IsBlanks w)
    (hs : IsDocument d s) (hw' : IsBlanks w') (hs' : IsDocument d' s')
    (h : w ++ (s ++ rest) = w' ++ (s' ++ rest')) : rest = rest' := by
  have hread := readPrefix_append hw hs rest
  rw [h, readPrefix_append hw' hs' rest'] at hread
  cases hread
  rfl

/-- Nothing but blanks stands where the front is blank to the end. -/
theorem isEmpty_skipBlank_iff : (skipBlank s).isEmpty = true ↔ IsBlanks s := by
  constructor
  · intro h
    obtain ⟨w, hw, hs⟩ := exists_blanks s
    rw [List.isEmpty_iff.1 h, List.append_nil] at hs
    exact hs ▸ hw
  · intro hs
    have h := skipBlank_append hs []
    rw [List.append_nil] at h
    rw [h]
    rfl

theorem read_append (hw : IsBlanks w) (hs : IsDocument d s) :
    (IsBlanks rest → read (w ++ (s ++ rest)) = .ok d) ∧
      (¬IsBlanks rest → read (w ++ (s ++ rest)) = .error .malformed) := by
  rw [read, readPrefix_append hw hs, ← isEmpty_skipBlank_iff]
  exact ⟨fun h ↦ if_pos h, fun h ↦ if_neg h⟩

/-- What stands before the closing bracket of a document is no document. -/
theorem not_written_of_prefix {p : List UInt8} {b : UInt8} {t : List UInt8} (hw : IsBlanks w)
    (hs : IsDocument d (t ++ [b])) (hp : p <+: w ++ t) (d' : Document) : ¬d'.Written p := by
  rintro @⟨w₁, s₁, w₁', hw₁, hs₁, -⟩
  obtain ⟨q, hq⟩ := hp
  have hsame : w₁ ++ (s₁ ++ (w₁' ++ (q ++ [b]))) = w ++ (t ++ [b] ++ []) := by
    rw [List.append_nil, ← List.append_assoc w, ← hq]
    simp only [List.append_assoc]
  -- the bracket would have to stand behind the shorter document, where the longer one ends
  have hrest := hs₁.rest_eq hw₁ hw hs hsame
  simp at hrest

end Document

namespace Record

open Json (IsBlanks byte)

variable {s : List UInt8} {visit : Document.Visit}

theorem exists_written_of_decode
    (h : (∃ r, decode s visit = .ok r) ∨ ∃ k e, decode s visit = .error (.field k e)) :
    ∃ d : Document, d.Written s := by
  cases hread : Document.read s with
  | ok d => exact ⟨d, Document.read_eq_ok_iff.1 hread⟩
  | error f =>
    rw [decode_eq_json_iff.2 hread] at h
    obtain ⟨_, ⟨⟩⟩ | ⟨_, _, ⟨⟩⟩ := h

theorem exists_json_of_not_written (h : ∀ d : Document, ¬d.Written s) :
    ∃ f, ∀ visit, decode s visit = .error (.json f) := by
  cases hread : Document.read s with
  | ok d => exact absurd (Document.read_eq_ok_iff.1 hread) (h d)
  | error f => exact ⟨f, fun visit ↦ decode_eq_json_iff.2 hread⟩

/-- Bytes that the same document is read from have the same results. -/
theorem decode_eq_of_read_eq {t : List UInt8} (h : Document.read s = Document.read t)
    (visit : Document.Visit) : decode s visit = decode t visit := by
  rw [decode, decode, h]

/-- What begins bytes that end with `b` and blanks either ends before `b` or has it, with blanks
behind. -/
theorem exists_blanks_of_prefix {p t w : List UInt8} {b : UInt8} (hp : p <+: t ++ [b] ++ w)
    (hw : IsBlanks w) (hcut : ¬p <+: t) : ∃ w', p = t ++ [b] ++ w' ∧ IsBlanks w' := by
  have hclosed : t ++ [b] <+: p := by
    rcases List.prefix_or_prefix_of_prefix hp (List.prefix_append _ w) with hle | hge
    · obtain rfl | hle := List.prefix_concat_iff.1 hle
      · exact List.prefix_refl _
      · exact absurd hle hcut
    · exact hge
  obtain ⟨w', rfl⟩ := hclosed
  have hblank : w' <+: w := (List.prefix_append_right_inj _).1 hp
  exact ⟨w', rfl, fun c hc ↦ hw c (hblank.subset hc)⟩

/-- **Cut documents.**  Let a record be decoded from the bytes, or the fault of a field.  Then they
end with a closing bracket and blanks.  Whatever of their front ends before that bracket is no
JSON; with the bracket the result is that of the whole.  Blanks appended to the bytes change
nothing, and anything else appended makes them no JSON.  All this is so in whatever order the
fields are gone through, which has no part in a record and none but to choose among the fields at
fault. -/
theorem decode_of_prefix (s : List UInt8) (visit : Document.Visit)
    (h : (∃ r, decode s visit = .ok r) ∨ ∃ k e, decode s visit = .error (.field k e)) :
    (∃ t b w, s = t ++ b :: w ∧ (b = byte ']' ∨ b = byte '}') ∧ IsBlanks w ∧
      ∀ p, p <+: s → (p <+: t → ∃ f, ∀ visit', decode p visit' = .error (.json f)) ∧
        (¬p <+: t → ∀ visit', decode p visit' = decode s visit')) ∧
      (∀ u, (IsBlanks u → ∀ visit', decode (s ++ u) visit' = decode s visit') ∧
        (¬IsBlanks u → ∃ f, ∀ visit', decode (s ++ u) visit' = .error (.json f))) ∧
      ∀ r, decode s visit = .ok r → ∀ visit', decode s visit' = .ok r := by
  obtain ⟨d, @⟨w, t, w', hw, ht, hw'⟩⟩ := exists_written_of_decode h
  obtain ⟨t, b, rfl, hb⟩ := ht.endsClosed
  have hread {u : List UInt8} (hu : IsBlanks u) :
      Document.read (w ++ (t ++ [b]) ++ u) = .ok d := by
    rw [List.append_assoc]
    exact (Document.read_append hw ht).1 hu
  refine ⟨⟨w ++ t, b, w', by simp, hb, hw', ?_⟩, ?_, fun r hr ↦ decode_eq_ok_of_visit hr⟩
  · intro p hp
    constructor
    · intro hcut
      exact exists_json_of_not_written (Document.not_written_of_prefix hw ht hcut)
    · intro hcut
      rw [← List.append_assoc w] at hp hread ⊢
      obtain ⟨w₁, rfl, hw₁⟩ := exists_blanks_of_prefix hp hw' hcut
      exact decode_eq_of_read_eq ((hread hw₁).trans (hread hw').symm)
  · intro u
    constructor
    · intro hu
      apply decode_eq_of_read_eq
      rw [hread hw', List.append_assoc]
      exact hread (hw'.append hu)
    · intro hu
      have hblank : ¬IsBlanks (w' ++ u) := fun h ↦ hu fun c hc ↦ h c (List.mem_append_right _ hc)
      have hfault := (Document.read_append hw ht).2 hblank
      refine ⟨.malformed, fun visit ↦ decode_eq_json_iff.2 ?_⟩
      rwa [List.append_assoc, List.append_assoc]

/-- Cut in the middle of a key the document `replacing` is no JSON, and so it is if a letter
follows it; a blank behind it changes nothing. -/
theorem decode_of_prefix_replacing :
    ∃ r, (∀ visit, decode replacing visit = .ok r) ∧
      (∃ f, ∀ visit, decode (replacing.take 20) visit = .error (.json f)) ∧
      (∀ visit, decode (replacing ++ [byte ' ']) visit = .ok r) ∧
      ∃ f, ∀ visit, decode (replacing ++ [byte 'x']) visit = .error (.json f) := by
  have hread := Document.read_of_written written_replacing
  have hdecode : ∃ r, decode replacing = .ok r := by
    rw [decode_of_read hread]
    exact ⟨⟨"t", NameMap.ofList [("a", .int 1)]⟩, by decide⟩
  obtain ⟨⟨t, b, w, heq, -, hw, hcut⟩, happend, hall⟩ :=
    decode_of_prefix replacing .ascending (.inl hdecode)
  obtain ⟨r, hr⟩ := hdecode
  refine ⟨r, hall r hr, ?_, fun visit ↦ ?_, ?_⟩
  · have hw : w = [] := by
      obtain rfl | ⟨w, c, rfl⟩ := List.eq_nil_or_concat w
      · rfl
      · have hlast : replacing.getLast? = some c := by
          rw [heq, List.concat_eq_append, ← List.cons_append, ← List.append_assoc,
            List.getLast?_concat]
        have hblank := hw c (by simp)
        obtain rfl : byte '}' = c := Option.some.inj (Eq.trans (by decide) hlast)
        cases hblank
    have ht : t = replacing.dropLast := by simp [heq, hw]
    exact (hcut _ (List.take_prefix _ _)).1 (by rw [ht]; decide)
  · rw [(happend _).1 (List.forall_mem_singleton.2 (by decide)), hall r hr]
  · exact (happend _).2 fun hblank ↦ absurd (hblank _ (List.mem_singleton_self _)) (by decide)

end Record

end RecordGateway
