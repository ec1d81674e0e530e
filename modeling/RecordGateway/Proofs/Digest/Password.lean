import RecordGateway.Digest.Password
import RecordGateway.Proofs.Text.Base64
import RecordGateway.Proofs.Text.Utf8

/-!
# Comparing kept passwords

The comparison that goes through both texts to the end finds equal texts and no others.  What is
kept of two passwords is the same text exactly if their digests are the same bytes.
-/

namespace RecordGateway.Password

theorem foldl_or_eq_zero_iff {a : UInt8} {bs : List UInt8} :
    bs.foldl (· ||| ·) a = 0 ↔ a = 0 ∧ ∀ b ∈ bs, b = 0 := by
  induction bs generalizing a with
  | nil => simp
  | cons b bs ih =>
    rw [List.foldl_cons, ih, UInt8.or_eq_zero_iff, List.forall_mem_cons, and_assoc]

/-- Bytes of one length that differ in no bit are equal. -/
theorem difference_eq_zero_iff {a b : List UInt8} (h : a.length = b.length) :
    difference a b = 0 ↔ a = b := by
  rw [difference, foldl_or_eq_zero_iff]
  induction a generalizing b with
  | nil => cases b with
    | nil => simp
    | cons y b => cases h
  | cons x a ih => cases b with
    | nil => cases h
    | cons y b =>
      have hrec := ih (Nat.succ.inj h)
      simp only [true_and] at hrec ⊢
      rw [List.zipWith_cons_cons, List.forall_mem_cons, UInt8.xor_eq_zero_iff, hrec,
        List.cons_eq_cons]

theorem matchesText_iff {a b : String} : matchesText a b = true ↔ a = b := by
  rw [matchesText, Bool.and_eq_true, beq_iff_eq, beq_iff_eq]
  constructor
  · rintro ⟨hlength, hzero⟩
    exact Text.Utf8.encode_injective ((difference_eq_zero_iff hlength).1 hzero)
  · rintro rfl
    exact ⟨rfl, (difference_eq_zero_iff rfl).2 rfl⟩

/-- The digest of the bytes of a password. -/
def digest (password : String) : List UInt8 := Sha256.digest (Text.Utf8.encode password)

/-- Comparing what is kept of two passwords is comparing their digests. -/
theorem hash_eq_hash_iff {p q : String} : hash p = hash q ↔ digest p = digest q := by
  constructor
  · intro h
    have htext := String.append_right_inj _ |>.1 h
    exact Text.Base64.encode_injective (String.ofList_injective htext)
  · intro h
    rw [digest, digest] at h
    rw [hash, h, hash]

/-- What is kept of the empty password, whose digest begins with the bytes `e3 b0 c4 42`. -/
example : hash "" = "\x7bSHA256\x7d47DEQpj8HBSa+/TImW+5JCeuQeRkm5NMpJWZG3hSuFU=" := by
  decide +kernel

end RecordGateway.Password
