import Mathlib.Algebra.Group.Nat.Defs
import Mathlib.Tactic.SplitIfs
import TopologyExplorer.Text.Utf8

/-!
# UTF-8 read back

The bytes of a text are read back as the text. The first byte of a character says how many follow,
and the bounds that it sets for the second rule out no character; from then on the reader always
holds the leading bits of the character it is in.
-/

namespace TopologyExplorer.Utf8

theorem scanFrom_eq_append (items : List Item) (state : Option Partial) (bytes : List UInt8) :
    scanFrom items state bytes = items.reverse ++ scanFrom [] state bytes := by
  induction bytes generalizing items state with
  | nil => cases state <;> simp [scanFrom]
  | cons b bytes ih =>
    simp only [scanFrom]
    rw [ih, ih ((step state b).1.reverse ++ [])]
    simp

theorem scanFrom_cons {state next : Option Partial} {b : UInt8} {items : List Item}
    (h : step state b = (items, next)) (bytes : List UInt8) :
    scanFrom [] state (b :: bytes) = items ++ scanFrom [] next bytes := by
  rw [scanFrom, h]
  dsimp only
  rw [scanFrom_eq_append]
  simp

/-! ## The bytes behind the first -/

/-- The byte with the six bits of a value behind which `n` such bytes follow. -/
def tailByte (n v : Nat) : UInt8 := UInt8.ofNat (v / 64 ^ n % 64 + 0x80)

/-- The last `n` bytes of a character. -/
def tailBytes (v : Nat) : Nat → List UInt8
  | 0 => []
  | n + 1 => tailByte n v :: tailBytes v n

theorem toNat_tailByte (n v : Nat) : (tailByte n v).toNat = v / 64 ^ n % 64 + 0x80 := by
  have hBits : v / 64 ^ n % 64 < 64 := Nat.mod_lt _ (by decide)
  rw [tailByte, UInt8.toNat_ofNat']
  omega

/-- The reader holds the leading bits of a value, `n + 1` bytes are due, and the next of them is
within the bounds. -/
structure Partial.Awaits (p : Partial) (v n : Nat) : Prop where
  bits : p.bits = v / 64 ^ (n + 1)
  due : p.due = n + 1
  low : p.low ≤ tailByte n v
  high : tailByte n v ≤ p.high

theorem Partial.Awaits.of_toNat {p : Partial} {v n : Nat} (hBits : p.bits = v / 64 ^ (n + 1))
    (hDue : p.due = n + 1) (hLow : p.low.toNat ≤ v / 64 ^ n % 64 + 0x80)
    (hHigh : v / 64 ^ n % 64 + 0x80 ≤ p.high.toNat) : p.Awaits v n := by
  rw [← toNat_tailByte] at hLow hHigh
  exact ⟨hBits, hDue, UInt8.le_iff_toNat_le.mpr hLow, UInt8.le_iff_toNat_le.mpr hHigh⟩

theorem awaits_tail (v n : Nat) : Partial.Awaits ⟨v / 64 ^ (n + 1), n + 1, 0x80, 0xBF⟩ v n := by
  have hBits : v / 64 ^ n % 64 < 64 := Nat.mod_lt _ (by decide)
  refine .of_toNat rfl rfl ?_ ?_
  · exact Nat.le_add_left _ _
  · show _ ≤ 0xBF
    omega

theorem Partial.Awaits.step {p : Partial} {v n : Nat} (hp : p.Awaits v n) :
    Utf8.step (some p) (tailByte n v) =
      if n = 0 then ([some (Char.ofNat v)], none)
      else ([], some ⟨v / 64 ^ n, n, 0x80, 0xBF⟩) := by
  have hBits : p.bits * 64 + ((tailByte n v).toNat - 0x80) = v / 64 ^ n := by
    rw [hp.bits, toNat_tailByte, Nat.pow_succ, ← Nat.div_div_eq_div_mul]
    omega
  simp only [Utf8.step]
  rw [if_pos ⟨hp.low, hp.high⟩, hBits, hp.due]
  cases n with
  | zero => simp
  | succ n => simp

theorem Partial.Awaits.scanFrom {p : Partial} {v n : Nat} (hp : p.Awaits v n)
    (bytes : List UInt8) :
    Utf8.scanFrom [] (some p) (tailBytes v (n + 1) ++ bytes) =
      some (Char.ofNat v) :: scan bytes := by
  induction n generalizing p with
  | zero => exact scanFrom_cons (by rw [hp.step, if_pos rfl]) bytes
  | succ n ih =>
    rw [← ih (awaits_tail v n)]
    exact scanFrom_cons (by rw [hp.step, if_neg (Nat.succ_ne_zero n)]) _

/-! ## The first byte -/

theorem begin_two {b : UInt8} {v : Nat} (hb : b.toNat = v / 64 + 0xC0) (hLow : 0x80 ≤ v)
    (hHigh : v ≤ 0x7FF) : ∃ p, begin b = ([], some p) ∧ p.Awaits v 0 := by
  refine ⟨_, ?_, awaits_tail v 0⟩
  unfold begin
  dsimp only
  rw [if_neg (by omega), if_neg (by omega), if_pos (by omega), hb]
  simp

/-- The second byte is bounded from below behind the first of the three-byte range, which rules out
what two bytes can hold, and from above in front of the surrogates. -/
theorem begin_three {b : UInt8} {v : Nat} (hb : b.toNat = v / 4096 + 0xE0) (hLow : 0x800 ≤ v)
    (hHigh : v ≤ 0xFFFF) (hScalar : v < 0xD800 ∨ 0xDFFF < v) :
    ∃ p, begin b = ([], some p) ∧ p.Awaits v 1 := by
  unfold begin
  dsimp only
  rw [if_neg (by omega), if_neg (by omega), if_neg (by omega)]
  split_ifs
  case pos | pos | pos => refine ⟨_, rfl, .of_toNat ?_ rfl ?_ ?_⟩ <;> simp <;> omega
  all_goals omega

/-- The second byte is bounded from below behind the first of the four-byte range, which rules out
what three bytes can hold, and from above behind the last character. -/
theorem begin_four {b : UInt8} {v : Nat} (hb : b.toNat = v / 262144 + 0xF0) (hLow : 0x10000 ≤ v)
    (hHigh : v ≤ 0x10FFFF) : ∃ p, begin b = ([], some p) ∧ p.Awaits v 2 := by
  unfold begin
  dsimp only
  rw [if_neg (by omega), if_neg (by omega), if_neg (by omega), if_neg (by omega),
    if_neg (by omega), if_neg (by omega)]
  split_ifs
  case pos | pos | pos => refine ⟨_, rfl, .of_toNat ?_ rfl ?_ ?_⟩ <;> simp <;> omega
  all_goals omega

/-! ## Texts -/

theorem scan_utf8EncodeChar (c : Char) (bytes : List UInt8) :
    scan (String.utf8EncodeChar c ++ bytes) = some c :: scan bytes := by
  have hScalar : c.val.toNat < 0xD800 ∨ 0xDFFF < c.val.toNat ∧ c.val.toNat < 0x110000 := c.valid
  have hChar : Char.ofNat c.val.toNat = c := Char.ofNat_toNat c
  -- A longer character is its first byte and the bytes that this one makes due.
  have hLong : ∀ {b n}, (∃ p, begin b = ([], some p) ∧ p.Awaits c.val.toNat n) →
      scan (b :: tailBytes c.val.toNat (n + 1) ++ bytes) = some c :: scan bytes := by
    rintro b n ⟨p, hBegin, hp⟩
    have hStep : step none b = ([], some p) := hBegin
    have hRest := hp.scanFrom bytes
    rw [hChar] at hRest
    exact (scanFrom_cons hStep _).trans hRest
  unfold String.utf8EncodeChar
  dsimp only
  generalize c.val.toNat = v at hScalar hChar hLong ⊢
  split_ifs with hOne hTwo hThree
  · have hByte : (UInt8.ofNat v).toNat = v := by
      rw [UInt8.toNat_ofNat']
      omega
    have hStep : step none (UInt8.ofNat v) = ([some c], none) := by
      rw [step, begin, hByte, if_pos (by omega), hChar]
    exact scanFrom_cons hStep bytes
  · have hLead : (UInt8.ofNat (v / 64 % 32 + 0xC0)).toNat = v / 64 + 0xC0 := by
      rw [UInt8.toNat_ofNat']
      omega
    simpa [tailBytes, tailByte] using hLong (begin_two hLead (by omega) hTwo)
  · have hLead : (UInt8.ofNat (v / 4096 % 16 + 0xE0)).toNat = v / 4096 + 0xE0 := by
      rw [UInt8.toNat_ofNat']
      omega
    simpa [tailBytes, tailByte] using hLong (begin_three hLead (by omega) hThree (by omega))
  · have hLead : (UInt8.ofNat (v / 262144 % 8 + 0xF0)).toNat = v / 262144 + 0xF0 := by
      rw [UInt8.toNat_ofNat']
      omega
    simpa [tailBytes, tailByte] using hLong (begin_four hLead (by omega) (by omega))

theorem scan_encode (s : String) : scan (encode s) = s.toList.map some := by
  have hScan : ∀ cs : List Char, scan (cs.flatMap String.utf8EncodeChar) = cs.map some := by
    intro cs
    induction cs with
    | nil => rfl
    | cons c cs ih => rw [List.flatMap_cons, scan_utf8EncodeChar, ih, List.map_cons]
  exact hScan s.toList

/-- The bytes of a text are read back as the text. -/
theorem decode_encode (s : String) : decode (encode s) = s.toList := by
  rw [decode, scan_encode, List.map_map]
  exact List.map_id' _

end TopologyExplorer.Utf8
