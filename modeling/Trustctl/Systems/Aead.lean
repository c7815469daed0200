import Trustctl.Systems.Framing
import Mathlib.Data.List.Nodup

/-!
# Ideal authenticated encryption

An authenticated cipher is ideal when a ciphertext opens only if it was made, under the same
key, nonce and associated data; it then opens as the plaintext it was made of.  So opening is a
look into the list of everything that was ever encrypted.

* `Distinct` : no key was used twice.
* `Distinct.opens_iff` : under such a key only the one encryption made with it opens.
-/

namespace Trustctl.Systems

open List

/-- One encryption. -/
structure Sealing where
  key : List Byte
  nonce : List Byte
  aad : List Byte
  plain : List Byte
  cipher : List Byte

def aeadOpen (made : List Sealing) (key nonce cipher aad : List Byte) : Option (List Byte) :=
  (made.find? fun s => s.key = key ∧ s.nonce = nonce ∧ s.cipher = cipher ∧ s.aad = aad).map
    Sealing.plain

theorem aeadOpen_eq_some {made : List Sealing} {key nonce cipher aad plain : List Byte}
    (opened : aeadOpen made key nonce cipher aad = some plain) :
    ∃ s ∈ made, s.key = key ∧ s.nonce = nonce ∧ s.cipher = cipher ∧ s.aad = aad ∧
      s.plain = plain := by
  obtain ⟨s, hit, rfl⟩ := Option.map_eq_some_iff.mp opened
  have fits := find?_some hit
  rw [decide_eq_true_eq] at fits
  obtain ⟨key, nonce, cipher, aad⟩ := fits
  exact ⟨s, mem_of_find?_eq_some hit, key, nonce, cipher, aad, rfl⟩

/-- No key was used twice. -/
def Distinct (made : List Sealing) : Prop := (made.map Sealing.key).Nodup

/-- Under a key that was used once, only what was made with it opens. -/
theorem Distinct.opens_iff {made : List Sealing} (ne : Distinct made) {s : Sealing}
    (mem : s ∈ made) {aad plain : List Byte} :
    aeadOpen made s.key s.nonce s.cipher aad = some plain ↔ s.aad = aad ∧ s.plain = plain := by
  constructor
  · intro opened
    obtain ⟨t, mem', key, -, -, rfl, rfl⟩ := aeadOpen_eq_some opened
    rw [inj_on_of_nodup_map ne mem mem' key.symm]
    exact ⟨rfl, rfl⟩
  · rintro ⟨rfl, rfl⟩
    have here : (made.find? fun t => decide (t.key = s.key ∧ t.nonce = s.nonce ∧
        t.cipher = s.cipher ∧ t.aad = s.aad)).isSome := by
      rw [find?_isSome]
      exact ⟨s, mem, decide_eq_true ⟨rfl, rfl, rfl, rfl⟩⟩
    obtain ⟨t, hit⟩ := Option.isSome_iff_exists.mp here
    have fits := find?_some hit
    rw [decide_eq_true_eq] at fits
    cases inj_on_of_nodup_map ne (mem_of_find?_eq_some hit) mem fits.1
    rw [aeadOpen, hit]
    rfl

end Trustctl.Systems
