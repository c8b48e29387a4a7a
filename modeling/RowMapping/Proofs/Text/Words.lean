import RowMapping.Proofs.Text.Identifiers
import RowMapping.Text.Lines
import RowMapping.Text.SnakeCase

/-!
# The words of a name

`words` cuts a name where a word begins.  Snake case is the words in lower case with an underscore
between each two (`intercalate_words`), and as the words are not empty and meet at letters and
digits only, no underscore comes next to another one.

* `SnakeCases`  what the snake case of a name is to the name;
* `snakeCases_snakeCase`  every text of ASCII and its snake case.
-/

namespace RowMapping.Text

def words : List Char → List (List Char)
  | a :: b :: rest =>
    if wordBegins a b rest then [a] :: words (b :: rest) else pushFirst a (words (b :: rest))
  | [a] => [[a]]
  | [] => []

variable {a b : Char} {s rest : List Char}

theorem words_of_begins (h : wordBegins a b rest = true) :
    words (a :: b :: rest) = [a] :: words (b :: rest) := by rw [words, if_pos h]

theorem words_of_not_begins (h : wordBegins a b rest = false) :
    words (a :: b :: rest) = pushFirst a (words (b :: rest)) := by
  rw [words, h, if_neg Bool.false_ne_true]

theorem exists_words_cons (a : Char) (s : List Char) :
    ∃ w ws, words (a :: s) = (a :: w) :: ws := by
  cases s with
  | nil => exact ⟨[], [], rfl⟩
  | cons b rest =>
    cases h : wordBegins a b rest with
    | true => exact ⟨[], _, words_of_begins h⟩
    | false =>
      obtain ⟨w, ws, hwords⟩ := exists_words_cons b rest
      exact ⟨b :: w, ws, by rw [words_of_not_begins h, hwords]; rfl⟩

theorem ne_underscore_of_wordBegins (h : wordBegins a b rest = true) : a ≠ '_' ∧ b ≠ '_' := by
  have hlower : Char.isLower '_' = false := rfl
  have hdigit : Char.isDigit '_' = false := rfl
  have hupper : Char.isUpper '_' = false := rfl
  rw [wordBegins, Bool.and_eq_true] at h
  constructor
  · rintro rfl
    rw [hlower, hdigit, hupper] at h
    exact absurd h.2 Bool.false_ne_true
  · rintro rfl
    rw [hupper] at h
    exact absurd h.1 Bool.false_ne_true

/-! ### the words put together -/

theorem flatten_words (s : List Char) : (words s).flatten = s := by
  fun_induction words s with
  | case1 a b rest h ih => rw [List.flatten_cons, ih]; rfl
  | case2 a b rest h ih =>
    obtain ⟨w, ws, hwords⟩ := exists_words_cons b rest
    rw [hwords] at ih ⊢
    exact congrArg (a :: ·) ih
  | case3 a => rfl
  | case4 => rfl

theorem intercalate_words (s : List Char) : ['_'].intercalate (words s) = separateWords s := by
  fun_induction words s with
  | case1 a b rest h ih =>
    obtain ⟨w, ws, hwords⟩ := exists_words_cons b rest
    rw [separateWords_cons_cons, if_pos h, ← ih, hwords, List.intercalate_cons_cons]
    rfl
  | case2 a b rest h ih =>
    obtain ⟨w, ws, hwords⟩ := exists_words_cons b rest
    rw [separateWords_cons_cons, if_neg h, ← ih, hwords]
    cases ws with
    | nil => rfl
    | cons v ws => rw [pushFirst, List.intercalate_cons_cons, List.intercalate_cons_cons]; rfl
  | case3 a => rfl
  | case4 => rfl

theorem ne_nil_of_mem_words (s : List Char) : ∀ w ∈ words s, w ≠ [] := by
  fun_induction words s with
  | case1 a b rest h ih => exact List.forall_mem_cons.mpr ⟨List.cons_ne_nil _ _, ih⟩
  | case2 a b rest h ih =>
    obtain ⟨w, ws, hwords⟩ := exists_words_cons b rest
    rw [hwords] at ih ⊢
    exact List.forall_mem_cons.mpr ⟨List.cons_ne_nil _ _, (List.forall_mem_cons.mp ih).2⟩
  | case3 a => exact List.forall_mem_singleton.mpr (List.cons_ne_nil _ _)
  | case4 => exact nofun

/-- words that stand side by side do not meet at an underscore -/
theorem isChain_words (s : List Char) :
    (words s).IsChain fun v w => v.getLast? ≠ some '_' ∧ w.head? ≠ some '_' := by
  fun_induction words s with
  | case1 a b rest h ih =>
    obtain ⟨ha, hb⟩ := ne_underscore_of_wordBegins h
    obtain ⟨w, ws, hwords⟩ := exists_words_cons b rest
    rw [hwords] at ih ⊢
    refine List.isChain_cons_cons.mpr ⟨⟨?_, ?_⟩, ih⟩
    · exact fun heq => ha (Option.some.inj heq)
    · exact fun heq => hb (Option.some.inj heq)
  | case2 a b rest h ih =>
    obtain ⟨w, ws, hwords⟩ := exists_words_cons b rest
    rw [hwords] at ih ⊢
    cases ws with
    | nil => exact .singleton _
    | cons v ws =>
      rw [pushFirst, List.isChain_cons_cons, List.getLast?_cons_cons]
      exact List.isChain_cons_cons.mp ih
  | case3 a => exact .singleton _
  | case4 => exact .nil

/-- whether the text `u` is the first words -/
def IsEdge (ws : List (List Char)) (u : List Char) : Prop :=
  ∃ before behind, ws = before ++ behind ∧ before.flatten = u

theorem isEdge_cons_iff {ws : List (List Char)} {u : List Char} :
    IsEdge ([a] :: ws) (a :: u) ↔ IsEdge ws u := by
  constructor
  · rintro ⟨_ | ⟨v, before⟩, behind, hws, hflat⟩
    · cases hflat
    · obtain ⟨rfl, rfl⟩ := List.cons.inj hws
      exact ⟨before, behind, rfl, (List.cons.inj hflat).2⟩
  · rintro ⟨before, behind, rfl, rfl⟩
    exact ⟨[a] :: before, behind, rfl, rfl⟩

theorem isEdge_pushFirst_iff {w u : List Char} {ws : List (List Char)} (hu : u ≠ []) :
    IsEdge (pushFirst a (w :: ws)) (a :: u) ↔ IsEdge (w :: ws) u := by
  constructor
  · rintro ⟨_ | ⟨v, before⟩, behind, hws, hflat⟩
    · cases hflat
    · obtain ⟨rfl, rfl⟩ := List.cons.inj hws
      exact ⟨w :: before, behind, rfl, (List.cons.inj hflat).2⟩
  · rintro ⟨_ | ⟨v, before⟩, behind, hws, hflat⟩
    · exact absurd hflat.symm hu
    · obtain ⟨rfl, rfl⟩ := List.cons.inj hws
      exact ⟨(a :: w) :: before, behind, rfl, congrArg (a :: ·) hflat⟩

/-- a word ends exactly where the next begins -/
theorem isEdge_words_iff (u : List Char) (a b : Char) (rest : List Char) :
    IsEdge (words (u ++ a :: b :: rest)) (u ++ [a]) ↔ wordBegins a b rest = true := by
  induction u with
  | nil =>
    show IsEdge (words (a :: b :: rest)) [a] ↔ _
    cases h : wordBegins a b rest with
    | true =>
      rw [words_of_begins h]
      exact iff_of_true ⟨[[a]], _, rfl, rfl⟩ rfl
    | false =>
      obtain ⟨w, ws, hwords⟩ := exists_words_cons b rest
      rw [words_of_not_begins h, hwords]
      refine iff_of_false ?_ Bool.false_ne_true
      rintro ⟨_ | ⟨v, before⟩, behind, hws, hflat⟩
      · cases hflat
      · obtain ⟨rfl, -⟩ := List.cons.inj hws
        cases hflat
  | cons x u ih =>
    obtain ⟨y, tail, htail⟩ : ∃ y tail, u ++ a :: b :: rest = y :: tail :=
      List.exists_cons_of_ne_nil (by simp)
    rw [List.cons_append, List.cons_append, htail]
    rw [htail] at ih
    cases h : wordBegins x y tail with
    | true => rw [words_of_begins h, isEdge_cons_iff, ih]
    | false =>
      obtain ⟨w, ws, hwords⟩ := exists_words_cons y tail
      rw [hwords] at ih
      rw [words_of_not_begins h, hwords, isEdge_pushFirst_iff (by simp), ih]

/-! ### the characters -/

theorem filter_cons_congr {p : Char → Bool} {t : List Char} (h : s.filter p = t.filter p)
    (a : Char) : (a :: s).filter p = (a :: t).filter p := by
  rw [List.filter_cons, List.filter_cons, h]

theorem filter_separateWords (s : List Char) :
    (separateWords s).filter (· ≠ '_') = s.filter (· ≠ '_') := by
  induction s with
  | nil => rfl
  | cons a rest ih =>
    cases rest with
    | nil => rfl
    | cons b rest =>
      rw [separateWords_cons_cons]
      split
      next =>
        refine filter_cons_congr ?_ a
        rw [List.filter_cons_of_neg (by decide), ih]
      next => exact filter_cons_congr ih a

theorem mem_of_mem_separateWords {c : Char} (h : c ∈ separateWords s) : c = '_' ∨ c ∈ s := by
  by_cases hc : c = '_'
  · exact .inl hc
  · have hmem : c ∈ (separateWords s).filter (· ≠ '_') :=
      List.mem_filter.mpr ⟨h, decide_eq_true hc⟩
    rw [filter_separateWords] at hmem
    exact .inr (List.mem_filter.mp hmem).1

theorem isAscii_separateWords (h : IsAscii s) : IsAscii (separateWords s) := by
  intro c hc
  rcases mem_of_mem_separateWords hc with rfl | hc
  · decide
  · exact h c hc

/-- no other character becomes an underscore, so they can be taken out before or after -/
theorem filter_map_toLower (h : IsAscii s) :
    (s.map Char.toLower).filter (· ≠ '_') = (s.filter (· ≠ '_')).map Char.toLower := by
  rw [List.filter_map]
  refine congrArg _ (List.filter_congr fun c hc => ?_)
  exact decide_eq_decide.mpr (not_congr (toLower_eq_underscore_iff (h c hc)))

theorem separateWords_of_no_upper (h : ∀ c ∈ s, c.isUpper = false) : separateWords s = s := by
  induction s with
  | nil => rfl
  | cons a rest ih =>
    have hrest := ih fun c hc => h c (List.mem_cons_of_mem _ hc)
    cases rest with
    | nil => rfl
    | cons b rest =>
      have hbegins : wordBegins a b rest = false := by
        rw [wordBegins, h b (List.mem_cons_of_mem _ List.mem_cons_self), Bool.false_and]
      rw [separateWords_cons_cons, hbegins, if_neg Bool.false_ne_true, hrest]

theorem head?_separateWords (s : List Char) : (separateWords s).head? = s.head? := by
  cases s with
  | nil => rfl
  | cons a rest =>
    cases rest with
    | nil => rfl
    | cons b rest =>
      rw [separateWords_cons_cons]
      split <;> rfl

/-! ### snake case -/

/-- what the snake case `t` of a name `s` is to the name -/
structure SnakeCases (s t : String) : Prop where
  ascii : IsAscii t.toList
  noUpper : ∀ c ∈ t.toList, c.isUpper = false
  fixed : snakeCase t = t
  letters : t.toList.filter (· ≠ '_') = (lower s.toList).filter (· ≠ '_')
  /-- The name is words, none of them empty, and its snake case has one underscore between each two
  of them, which meet neither at the end nor at the beginning of one in another underscore.  A word
  ends exactly where the next begins. -/
  separated : ∃ ws : List (List Char), ws.flatten = s.toList ∧
    lower (['_'].intercalate ws) = t.toList ∧ (∀ w ∈ ws, w ≠ []) ∧
    (ws.IsChain fun v w => v.getLast? ≠ some '_' ∧ w.head? ≠ some '_') ∧
    ∀ u a b rest, s.toList = u ++ a :: b :: rest →
      (IsEdge ws (u ++ [a]) ↔ wordBegins a b rest = true)
  name : isLanguageName s = true → isLanguageName t = true

theorem toList_snakeCase {s : String} (h : IsAscii s.toList) :
    (snakeCase s).toList = (separateWords s.toList).map Char.toLower := by
  rw [snakeCase, String.toList_ofList, snakeCaseChars]
  exact lower_of_isAscii (isAscii_separateWords h)

/-- the underscores and small letters of a name's snake case can stand where they do -/
theorem isLanguageName_snakeCase {s : String} (hascii : IsAscii s.toList)
    (hname : isLanguageName s = true) : isLanguageName (snakeCase s) = true := by
  obtain ⟨c, rest, hs⟩ : ∃ c rest, s.toList = c :: rest := by
    refine List.exists_cons_of_ne_nil fun hnil => ?_
    rw [isLanguageName, hnil] at hname
    cases hname
  obtain ⟨hstart, hrest⟩ := (isLanguageName_iff hs).mp hname
  obtain ⟨tail, hseparated⟩ : ∃ tail, separateWords s.toList = c :: tail := by
    refine List.head?_eq_some_iff.mp ?_
    rw [head?_separateWords, hs, List.head?_cons]
  have hchars : (snakeCase s).toList = c.toLower :: tail.map Char.toLower := by
    rw [toList_snakeCase hascii, hseparated, List.map_cons]
  rw [isLanguageName_iff hchars, List.forall_mem_map]
  have hall := isAscii_separateWords hascii
  rw [hseparated] at hall
  obtain ⟨hc, htail⟩ := List.forall_mem_cons.mp hall
  refine ⟨by rw [isNameStart_toLower hc, hstart], fun d hd => ?_⟩
  rw [isNameContinue_toLower (htail d hd)]
  have hmem : d ∈ separateWords s.toList := by
    rw [hseparated]
    exact List.mem_cons_of_mem _ hd
  rcases mem_of_mem_separateWords hmem with rfl | hmem
  · exact isNameContinue_underscore
  · rw [hs] at hmem
    rcases List.mem_cons.mp hmem with rfl | hmem
    · rw [isNameContinue, hstart, Bool.true_or, Bool.true_or]
    · exact hrest d hmem

/-- Snake case puts single underscores between the words of a text of ASCII, and changes nothing
else but capitals to small letters. -/
theorem snakeCases_snakeCase (s : String) (h : IsAscii s.toList) : SnakeCases s (snakeCase s) := by
  have hchars := toList_snakeCase h
  have hseparated := isAscii_separateWords h
  have hascii : IsAscii (snakeCase s).toList := by
    rw [IsAscii, hchars, List.forall_mem_map]
    exact fun c hc => toNat_toLower_lt (hseparated c hc)
  have hupper : ∀ c ∈ (snakeCase s).toList, c.isUpper = false := by
    rw [hchars, List.forall_mem_map]
    exact fun c hc => isUpper_toLower (hseparated c hc)
  refine ⟨hascii, hupper, ?_, ?_, ⟨words s.toList, ?_⟩, isLanguageName_snakeCase h⟩
  · apply String.toList_injective
    have hid : (snakeCase s).toList.map Char.toLower = (snakeCase s).toList.map id :=
      List.map_congr_left fun c hc => toLower_of_not_upper (hascii c hc) (hupper c hc)
    rw [toList_snakeCase hascii, separateWords_of_no_upper hupper, hid, List.map_id]
  · rw [hchars, lower_of_isAscii h, filter_map_toLower hseparated, filter_map_toLower h,
      filter_separateWords]
  · refine ⟨flatten_words _, ?_, ne_nil_of_mem_words _, isChain_words _, fun u a b rest hs => ?_⟩
    · rw [intercalate_words, snakeCase, String.toList_ofList, snakeCaseChars]
    · rw [hs, isEdge_words_iff]

/-- a row of capitals, a digit and an underscore, each next to a word -/
theorem snakeCases_serverName : IsAscii "HTTPServer2Go_Foo".toList ∧
    isLanguageName "HTTPServer2Go_Foo" = true ∧
    SnakeCases "HTTPServer2Go_Foo" "http_server2_go_foo" := by
  have hascii : IsAscii "HTTPServer2Go_Foo".toList := by decide
  have hsnake : snakeCase "HTTPServer2Go_Foo" = "http_server2_go_foo" := by decide +kernel
  refine ⟨hascii, by decide +kernel, ?_⟩
  rw [← hsnake]
  exact snakeCases_snakeCase _ hascii

end RowMapping.Text
