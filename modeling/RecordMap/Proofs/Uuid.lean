import RecordMap.Uuid
import Mathlib.Tactic.IntervalCases
import Mathlib.Tactic.Ring

/-!
# Reading back the hyphenated text of an identifier

The hyphenated text of every 128-bit identifier parses as the identifier (`parse_hyphenated`).
The text is 36 ASCII characters, so the parser takes the hyphenated branch; the hyphens stand
between groups of 8, 4, 4, 4 and 12 digits, so it gets the 32 digits back
(`hyphenatedDigits?_groups`); and the digits, read in base 16, are the number they were written
from (`hexNumber?_hexDigits`).
-/

namespace RecordMap.Uuid

theorem hexValue?_hexDigit {d : Nat} (h : d < 16) : hexValue? (hexDigit d) = some d := by
  interval_cases d <;> decide

theorem utf8Size_hexDigit {d : Nat} (h : d < 16) : (hexDigit d).utf8Size = 1 := by
  interval_cases d <;> decide

theorem length_hexDigits (w n : Nat) : (hexDigits w n).length = w := by
  simp [hexDigits]

theorem mem_hexDigits {w n : Nat} {c : Char} (h : c ∈ hexDigits w n) :
    ∃ d < 16, c = hexDigit d := by
  simp only [hexDigits, List.mem_map, List.mem_reverse, List.mem_range] at h
  obtain ⟨i, -, rfl⟩ := h
  exact ⟨_, Nat.mod_lt _ (by decide), rfl⟩

theorem foldlM_hexValue {α : Type} (acc : Nat) (l : List α) (g : α → Nat)
    (h : ∀ a ∈ l, g a < 16) :
    (l.map fun a => hexDigit (g a)).foldlM (fun n c => (hexValue? c).map (16 * n + ·)) acc =
      some ((l.map g).foldl (fun n d => 16 * n + d) acc) := by
  induction l generalizing acc with
  | nil => rfl
  | cons a l ih =>
    simp only [List.map_cons, List.foldlM_cons, hexValue?_hexDigit (h a (List.mem_cons_self ..)),
      Option.map_some, Option.bind_eq_bind, Option.bind_some, List.foldl_cons]
    exact ih _ fun a ha => h a (List.mem_cons_of_mem _ ha)

theorem foldl_hexPlaces (v acc w : Nat) :
    ((List.range w).reverse.map fun i => v / Nat.pow 16 i % 16).foldl (fun n d => 16 * n + d) acc =
      acc * 16 ^ w + v % 16 ^ w := by
  induction w generalizing acc with
  | zero => simp [Nat.mod_one]
  | succ w ih =>
    rw [List.range_succ, List.reverse_append, List.reverse_singleton, List.singleton_append,
      List.map_cons, List.foldl_cons, ih, Nat.mod_pow_succ, Nat.pow_eq, Nat.pow_succ]
    ring

theorem hexNumber?_hexDigits {w v : Nat} (h : v < 16 ^ w) :
    hexNumber? (hexDigits w v) = some v := by
  unfold hexNumber? hexDigits
  rw [foldlM_hexValue 0 _ _ (fun _ _ => Nat.mod_lt _ (by decide)), foldl_hexPlaces,
    Nat.mod_eq_of_lt h, Nat.zero_mul, Nat.zero_add]

theorem byteLength_of_ascii {cs : List Char} (h : ∀ c ∈ cs, c.utf8Size = 1) :
    byteLength cs = cs.length := by
  have hfold : ∀ (a : Nat) (l : List Char), (∀ c ∈ l, c.utf8Size = 1) →
      l.foldl (fun n c => n + c.utf8Size) a = a + l.length := by
    intro a l hl
    induction l generalizing a with
    | nil => rfl
    | cons c l ih =>
      rw [List.foldl_cons, hl c (List.mem_cons_self ..),
        ih _ fun d hd => hl d (List.mem_cons_of_mem _ hd), List.length_cons]
      omega
  rw [byteLength, hfold 0 cs h, Nat.zero_add]

/-- The hyphenated layout: five groups of 8, 4, 4, 4 and 12 digits. -/
theorem hyphenatedDigits?_groups {ds : List Char} (h : ds.length = 32) :
    hyphenatedDigits? (ds.take 8 ++ ['-'] ++ (ds.drop 8).take 4 ++ ['-'] ++ (ds.drop 12).take 4 ++
      ['-'] ++ (ds.drop 16).take 4 ++ ['-'] ++ ds.drop 20) = some ds := by
  unfold hyphenatedDigits?
  rw [if_pos (by simp [h])]
  simp only [List.append_assoc, List.cons_append, List.nil_append, List.length_take, h,
    Nat.reduceLeDiff, inf_of_le_left, List.take_left', List.drop_append, List.drop_take,
    Nat.sub_eq_zero_of_le, List.take_zero, Nat.reduceSub, List.drop_succ_cons, tsub_zero,
    List.drop_drop, add_zero, List.length_drop, zero_tsub, List.drop_zero, Nat.reduceAdd,
    Option.some.injEq]
  -- the five groups put back together
  rw [show ds.drop 20 = (ds.drop 16).drop 4 by rw [List.drop_drop], List.take_append_drop,
    show ds.drop 16 = (ds.drop 12).drop 4 by rw [List.drop_drop], List.take_append_drop,
    show ds.drop 12 = (ds.drop 8).drop 4 by rw [List.drop_drop], List.take_append_drop,
    List.take_append_drop]

theorem hyphenated_toList (u : Uuid) :
    u.hyphenated.toList =
      (hexDigits 32 u.value).take 8 ++ ['-'] ++ ((hexDigits 32 u.value).drop 8).take 4 ++ ['-'] ++
        ((hexDigits 32 u.value).drop 12).take 4 ++ ['-'] ++
        ((hexDigits 32 u.value).drop 16).take 4 ++ ['-'] ++ (hexDigits 32 u.value).drop 20 := by
  rw [hyphenated, String.toList_ofList]

/-- The hyphenated text is ASCII: digits and hyphens. -/
theorem utf8Size_of_mem_hyphenated {u : Uuid} {c : Char} (hc : c ∈ u.hyphenated.toList) :
    c.utf8Size = 1 := by
  have hdigit : ∀ c ∈ hexDigits 32 u.value, c.utf8Size = 1 := by
    intro c hc
    obtain ⟨d, hd, rfl⟩ := mem_hexDigits hc
    exact utf8Size_hexDigit hd
  simp only [hyphenated_toList, List.mem_append, List.mem_singleton, or_assoc] at hc
  rcases hc with h | rfl | h | rfl | h | rfl | h | rfl | h
  all_goals first
    | rfl
    | exact hdigit c (List.mem_of_mem_take h)
    | exact hdigit c (List.mem_of_mem_drop (List.mem_of_mem_take h))
    | exact hdigit c (List.mem_of_mem_drop h)

theorem parse_hyphenated {u : Uuid} (h : u.value < 2 ^ 128) : parse u.hyphenated = .ok u := by
  have hlen := length_hexDigits 32 u.value
  have h32 : u.value < 16 ^ 32 := by simpa using h
  have hbytes : byteLength u.hyphenated.toList = 36 := by
    rw [byteLength_of_ascii fun _ => utf8Size_of_mem_hyphenated, hyphenated_toList]
    simp [hlen]
  unfold parse parseShape?
  rw [hbytes]
  simp only
  rw [hyphenated_toList, hyphenatedDigits?_groups hlen]
  simp only [Option.bind_some, hlen, if_true, hexNumber?_hexDigits h32,
    Option.map_some]

end RecordMap.Uuid
