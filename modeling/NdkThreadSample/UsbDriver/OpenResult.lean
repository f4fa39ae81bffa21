import NdkThreadSample.UsbDriver.Effects

/-!
What the result of `OpenDevice` tells. The devices are compared with the
entries of `mDevList` as texts, which tell vendor and product apart. The first
device that matches is opened when it has the permission; whether `openDevice`
made a connection is not asked, so the result is 1 without one as well.
-/

namespace NdkThreadSample.UsbDriver
open Growth

/-! The texts of the ids. -/

def hexValue (x : Char) : Nat := if x.toNat < 58 then x.toNat - 48 else x.toNat - 55

/-- The number that `%04X` writes. -/
def read04X (text : List Char) : Nat := Nat.ofDigits 16 (text.reverse.map hexValue)

theorem hexUpper_digit {d : Nat} (hd : d < 16) : hexValue (hexUpper d) = d ∧ hexUpper d ≠ ':' := by
  have all : ∀ d : Fin 16, hexValue (hexUpper d) = d ∧ hexUpper d ≠ ':' := by decide
  exact all ⟨d, hd⟩

theorem read04X_format04X (n : UInt32) : read04X (format04X n) = n.toNat := by
  have digit : ∀ d ∈ Nat.digits 16 n.toNat, (hexValue ∘ hexUpper) d = id d :=
    fun d hd => (hexUpper_digit (Nat.digits_lt_base (by decide) hd)).1
  have zero : hexValue '0' = 0 := by decide
  simp only [read04X, format04X, List.leftpad, List.reverse_append, List.map_append,
    List.reverse_replicate, List.map_replicate, ← List.map_reverse, List.reverse_reverse, zero,
    Nat.ofDigits_append_replicate_zero, List.map_map]
  rw [List.map_congr_left digit, List.map_id, Nat.ofDigits_digits]

theorem colon_notMem_format04X (n : UInt32) : ':' ∉ format04X n := by
  intro hmem
  simp only [format04X, List.leftpad, List.mem_append, List.mem_replicate, List.mem_map,
    List.mem_reverse] at hmem
  cases hmem with
  | inl pad => exact absurd pad.2 (by decide)
  | inr digit =>
      obtain ⟨d, hd, same⟩ := digit
      exact (hexUpper_digit (Nat.digits_lt_base (by decide) hd)).2 same

/-- An entry of `mDevList` has the ids of one kind of device only. -/
theorem formatIds_inj {vendor product vendor' product' : UInt32}
    (h : formatIds vendor product = formatIds vendor' product') :
    vendor = vendor' ∧ product = product' := by
  have split (v p : UInt32) : (formatIds v p).splitOn ':' = [format04X v, format04X p] := by
    rw [formatIds, List.splitOn_append_cons_self,
      List.splitOn_eq_singleton (colon_notMem_format04X v),
      List.splitOn_eq_singleton (colon_notMem_format04X p)]
    rfl
  have same : [format04X vendor, format04X product] = [format04X vendor', format04X product'] := by
    rw [← split, ← split, h]
  obtain ⟨hv, hp⟩ := List.cons_eq_cons.mp same
  have value {n m : UInt32} (h : format04X n = format04X m) : n = m := by
    apply UInt32.toNat_inj.mp
    rw [← read04X_format04X, ← read04X_format04X, h]
  exact ⟨value hv, value (List.singleton_inj.mp hp)⟩

/-! The result. -/

section
variable {s t : State} {env : OpenEnv} {device : UsbDevice}

end

end NdkThreadSample.UsbDriver
