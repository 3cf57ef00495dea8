import Mathlib.Tactic.SplitIfs
import QueryDescriptor.Text.Basic

namespace QueryDescriptor.Text

def bytes (t : Text) : List UInt8 := t.flatMap String.utf8EncodeChar

theorem byte_cons_lt {m n : Nat} (hn : n < 256) (hle : m ≤ n) {s t : List UInt8}
    (h : m = n → s < t) : UInt8.ofNat m :: s < UInt8.ofNat n :: t := by
  rw [List.cons_lt_cons_iff]
  rcases Nat.lt_or_eq_of_le hle with hlt | rfl
  · left
    rw [UInt8.lt_iff_toNat_lt, UInt8.toNat_ofNat', UInt8.toNat_ofNat', Nat.mod_eq_of_lt hn,
      Nat.mod_eq_of_lt (Nat.lt_trans hlt hn)]
    exact hlt
  · exact .inr ⟨rfl, h rfl⟩

/-- The first byte tells the number of bytes, more for a greater character; with as many bytes, a
greater character is greater at the first byte where the two differ. -/
theorem utf8EncodeChar_append_lt {c d : Char} (h : c < d) (s t : List UInt8) :
    String.utf8EncodeChar c ++ s < String.utf8EncodeChar d ++ t := by
  have hlt : c.val.toNat < d.val.toNat := UInt32.lt_iff_toNat_lt.1 h
  have hd : d.val.toNat < 0x110000 := by
    rcases d.valid with hv | ⟨_, hv⟩
    · exact Nat.lt_trans hv (by decide)
    · exact hv
  rw [String.utf8EncodeChar, String.utf8EncodeChar]
  generalize c.val.toNat = v at hlt
  generalize d.val.toNat = w at hlt hd
  by_cases h1 : w ≤ 0x7f
  · rw [if_pos h1, if_pos (by omega)]
    exact byte_cons_lt (by omega) (by omega) fun _ => by omega
  by_cases h2 : w ≤ 0x7ff
  · rw [if_neg h1, if_pos h2]
    split_ifs
    · exact byte_cons_lt (by omega) (by omega) fun _ => by omega
    · exact byte_cons_lt (by omega) (by omega) fun _ =>
        byte_cons_lt (by omega) (by omega) fun _ => by omega
    · omega
    · omega
  by_cases h3 : w ≤ 0xffff
  · rw [if_neg h1, if_neg h2, if_pos h3]
    split_ifs
    · exact byte_cons_lt (by omega) (by omega) fun _ => by omega
    · exact byte_cons_lt (by omega) (by omega) fun _ => by omega
    · exact byte_cons_lt (by omega) (by omega) fun _ =>
        byte_cons_lt (by omega) (by omega) fun _ =>
          byte_cons_lt (by omega) (by omega) fun _ => by omega
    · omega
  · rw [if_neg h1, if_neg h2, if_neg h3]
    split_ifs
    · exact byte_cons_lt (by omega) (by omega) fun _ => by omega
    · exact byte_cons_lt (by omega) (by omega) fun _ => by omega
    · exact byte_cons_lt (by omega) (by omega) fun _ => by omega
    · exact byte_cons_lt (by omega) (by omega) fun _ =>
        byte_cons_lt (by omega) (by omega) fun _ =>
          byte_cons_lt (by omega) (by omega) fun _ =>
            byte_cons_lt (by omega) (by omega) fun _ => by omega

theorem bytes_lt {s t : Text} (h : s < t) : bytes s < bytes t := by
  induction h with
  | @nil c t =>
    obtain ⟨byte, rest, he⟩ := List.exists_cons_of_ne_nil (@String.utf8EncodeChar_ne_nil c)
    rw [bytes, bytes, List.flatMap_nil, List.flatMap_cons, he]
    exact List.nil_lt_cons byte _
  | rel h => exact utf8EncodeChar_append_lt h _ _
  | cons _ ih => exact List.append_left_lt ih

end QueryDescriptor.Text
