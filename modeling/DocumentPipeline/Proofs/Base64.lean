import DocumentPipeline.Text.Base64

/-!
# Reading base 64 undoes writing it

* `value?_sign`, `sign_ne_pad`: each sign stands for one number, and none of them is the padding;
* `decodeChars_one`, `decodeChars_two`, `decodeChars_three`: a group of signs gives its bytes back;
* `decode_encode`: so does a whole text.
-/

namespace DocumentPipeline.Text.Base64

theorem value?_sign {n : Nat} (h : n < 64) : value? (sign n) = some n := by
  revert n
  decide +kernel

theorem sign_ne_pad {n : Nat} (h : n < 64) : sign n ≠ '=' := by
  revert n
  decide +kernel

section
variable (a b c : UInt8)

theorem decodeChars_one :
    decodeChars [sign (a.toNat * 16 / 64), sign (a.toNat * 16 % 64), '=', '='] = some [a] := by
  have ha := a.toNat_lt
  rw [decodeChars, value?_sign (by omega), value?_sign (by omega)]
  have whole : 64 * (a.toNat * 16 / 64) + a.toNat * 16 % 64 = a.toNat * 16 := by omega
  simp only [Option.bind_eq_bind, Option.bind_some, whole]
  simp

theorem decodeChars_two {n : Nat} (hn : n = (a.toNat * 256 + b.toNat) * 4) :
    decodeChars [sign (n / 4096), sign (n / 64 % 64), sign (n % 64), '='] = some [a, b] := by
  have ha := a.toNat_lt
  have hb := b.toNat_lt
  have third : n % 64 < 64 := by omega
  rw [decodeChars.eq_3 _ _ _ (sign_ne_pad third), value?_sign (by omega), value?_sign (by omega),
    value?_sign third]
  have whole : 4096 * (n / 4096) + 64 * (n / 64 % 64) + n % 64 = n := by omega
  have first : n / 1024 = a.toNat := by omega
  have second : n / 4 % 256 = b.toNat := by omega
  have clean : n % 4 = 0 := by omega
  simp only [Option.bind_eq_bind, Option.bind_some, whole, first, second, clean]
  simp

/-- A full group is not mistaken for a padded one. -/
theorem decodeChars_three {n : Nat} (hn : n = (a.toNat * 256 + b.toNat) * 256 + c.toNat)
    (rest : List Char) :
    decodeChars (sign (n / 262144) :: sign (n / 4096 % 64) :: sign (n / 64 % 64) ::
      sign (n % 64) :: rest) = (decodeChars rest).map fun more => a :: b :: c :: more := by
  have ha := a.toNat_lt
  have hb := b.toNat_lt
  have hc := c.toNat_lt
  have fourth : n % 64 < 64 := by omega
  have padless := sign_ne_pad fourth
  rw [decodeChars.eq_4 _ _ _ _ _ (fun _ h => absurd h padless) (fun h => absurd h padless),
    value?_sign (by omega), value?_sign (by omega), value?_sign (by omega), value?_sign fourth]
  have whole :
      262144 * (n / 262144) + 4096 * (n / 4096 % 64) + 64 * (n / 64 % 64) + n % 64 = n := by omega
  have first : n / 65536 = a.toNat := by omega
  have second : n / 256 % 256 = b.toNat := by omega
  have third : n % 256 = c.toNat := by omega
  simp only [Option.bind_eq_bind, Option.bind_some, whole, first, second, third, UInt8.ofNat_toNat]
  cases decodeChars rest <;> rfl

end

theorem decodeChars_encodeBytes (bytes : List UInt8) :
    decodeChars (encodeBytes bytes) = some bytes := by
  induction bytes using encodeBytes.induct with
  | case1 => rfl
  | case2 a => exact decodeChars_one a
  | case3 a b => exact decodeChars_two a b rfl
  | case4 a b c rest ih => rw [encodeBytes, decodeChars_three a b c rfl, ih, Option.map_some]

/-- **Reading base 64** undoes writing it. -/
theorem decode_encode (bytes : List UInt8) : decode (encode bytes) = some bytes := by
  rw [decode, encode, String.toList_ofList, decodeChars_encodeBytes]

end DocumentPipeline.Text.Base64
