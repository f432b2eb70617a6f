import RemoteSigner.Bytes.Fixed

/-!
# Byte strings of a fixed length

They are their bytes, and what fits is kept whole.
-/

namespace RemoteSigner.FixedBytes

theorem eq_of_bytes {n : Nat} {a b : FixedBytes n} (h : a.bytes = b.bytes) : a = b := by
  cases a
  cases b
  simpa using h

/-- Reading undoes writing. -/
theorem ofBytes?_bytes {n : Nat} (r : FixedBytes n) : ofBytes? r.bytes = some r := by
  simp [ofBytes?, r.length_eq]

/-- Fitted byte strings of one length that fits are equal only if the bytes are. -/
theorem fit_inj {n : Nat} {xs ys : Bytes} (hlen : xs.length = ys.length) (hfit : xs.length ≤ n)
    (h : fit n xs = fit n ys) : xs = ys := by
  have hbytes : (xs ++ List.replicate n 0).take n = (ys ++ List.replicate n 0).take n :=
    congrArg bytes h
  have hprefix := congrArg (List.take xs.length) hbytes
  rw [List.take_take, List.take_take, Nat.min_eq_left hfit, List.take_left, hlen,
    List.take_left] at hprefix
  exact hprefix

end RemoteSigner.FixedBytes
