import ChatRouter.Proofs.Text.Pieces

set_option autoImplicit false

namespace ChatRouter.Text

/-- A change of characters that leaves each one its part in the scan. -/
structure Neutral (f : Char → Char) : Prop where
  plain : ∀ c d, isDoubleQuote d = false → (f c = d ↔ c = d)
  quote : ∀ c, isDoubleQuote (f c) = isDoubleQuote c
  literal : f '"' = '"'
  escape : ∀ c, unescape (f c) = (unescape c).map f

theorem neutral_id : Neutral id :=
  ⟨fun _ _ _ => Iff.rfl, fun _ => rfl, rfl, fun _ => (congrFun Option.map_id _).symm⟩

namespace Scan

variable {f : Char → Char} {earlier : List (List Char)}

/-- The scan with its characters changed, and with more words finished before all others. -/
def embed (f : Char → Char) (earlier : List (List Char)) (s : Scan) : Scan :=
  { s with words := s.words.map (List.map f) ++ earlier.reverse, word := s.word.map f }

theorem embed_push (s : Scan) (c : Char) : (s.push c).embed f earlier = (s.embed f earlier).push (f c) := rfl

theorem embed_flush (s : Scan) : s.flush.embed f earlier = (s.embed f earlier).flush := by
  cases hw : s.word with
  | nil => simp [flush, embed, hw]
  | cons c word => simp [flush, embed, hw]

theorem embed_read (hf : Neutral f) (s : Scan) (c : Char) :
    (s.read c).embed f earlier = (s.embed f earlier).read (f c) := by
  have hspace : f c = ' ' ↔ c = ' ' := hf.plain c ' ' rfl
  have hslash : f c = '\\' ↔ c = '\\' := hf.plain c '\\' rfl
  have hsingle : f c = '\'' ↔ c = '\'' := hf.plain c '\'' rfl
  have hflags : (s.embed f earlier).escaped = s.escaped ∧ (s.embed f earlier).double = s.double ∧
      (s.embed f earlier).single = s.single := ⟨rfl, rfl, rfl⟩
  simp only [read, hspace, hslash, hsingle, hf.quote, hf.escape, hflags]
  by_cases he : s.escaped = true
  · rw [if_pos he, if_pos he]
    cases unescape c <;> rfl
  · rw [if_neg he, if_neg he]
    split_ifs with hisspace _ _ _ _ hissingle
    · rw [embed_push, hspace.2 hisspace]
    · exact embed_flush s
    · rfl
    · rw [embed_push, hf.literal]
    · rfl
    · rw [embed_push, hsingle.2 hissingle]
    · rfl
    · rfl

theorem embed_readAll (hf : Neutral f) (s : Scan) (text : List Char) :
    (s.readAll text).embed f earlier = (s.embed f earlier).readAll (text.map f) := by
  induction text generalizing s with
  | nil => rfl
  | cons c text ih => exact (ih (s.read c)).trans (congrArg (readAll · (text.map f)) (embed_read hf s c))

theorem embed_result (s : Scan) : (s.embed f earlier).result = earlier ++ s.result.map (List.map f) := by
  rw [result, result, ← embed_flush, embed, List.reverse_append, List.reverse_reverse, List.map_reverse]

end Scan

def isCurved (c : Char) : Bool := c == '“' || c == '”'

def straight (c : Char) : Char := if isCurved c then '"' else c

theorem isDoubleQuote_of_isCurved {c : Char} (h : isCurved c = true) : isDoubleQuote c = true := by
  simp only [isCurved, Bool.or_eq_true, beq_iff_eq] at h
  rcases h with rfl | rfl <;> rfl

theorem isDoubleQuote_straight (c : Char) : isDoubleQuote (straight c) = isDoubleQuote c := by
  unfold straight
  split
  · rename_i h
    rw [isDoubleQuote_of_isCurved h]
    rfl
  · rfl

theorem straight_eq_iff (c d : Char) (hd : isDoubleQuote d = false) : straight c = d ↔ c = d := by
  unfold straight
  split
  · rename_i h
    have hquote := isDoubleQuote_of_isCurved h
    refine iff_of_false ?_ ?_
    · rintro rfl
      cases hd
    · rintro rfl
      rw [hquote] at hd
      cases hd
  · rfl

theorem isBlank_straight (c : Char) : isBlank (straight c) = isBlank c := by
  unfold straight
  split
  · rename_i h
    simp only [isCurved, Bool.or_eq_true, beq_iff_eq] at h
    rcases h with rfl | rfl <;> decide
  · rfl

theorem unescape_straight (c : Char) : unescape (straight c) = (unescape c).map straight := by
  by_cases h : isCurved c = true
  · have hquote : straight c = '"' := if_pos h
    rw [hquote]
    simp only [isCurved, Bool.or_eq_true, beq_iff_eq] at h
    rcases h with rfl | rfl <;> rfl
  · have hself : straight c = c := if_neg h
    rw [hself]
    unfold unescape
    split
    case h_12 | h_13 => exact absurd rfl h
    all_goals rfl

theorem neutral_straight : Neutral straight := ⟨straight_eq_iff, isDoubleQuote_straight, rfl, unescape_straight⟩

theorem trim_map_straight (text : List Char) : trim (text.map straight) = (trim text).map straight := by
  have hblank : isBlank ∘ straight = isBlank := funext isBlank_straight
  simp only [trim, trimRight, trimLeft, List.dropWhile_map, hblank, ← List.map_reverse]

def Scan.straighten (s : Scan) : Scan :=
  { s with words := s.words.map (List.map straight), word := s.word.map straight }

theorem Scan.embed_straight (s : Scan) : s.embed straight [] = s.straighten := by
  rw [embed, List.reverse_nil, List.append_nil, straighten]

theorem readAll_map_straight (text : List Char) :
    Scan.start.readAll (text.map straight) = (Scan.start.readAll text).straighten := by
  have hstart : Scan.start.straighten = Scan.start := rfl
  rw [← Scan.embed_straight, Scan.embed_readAll neutral_straight, Scan.embed_straight, hstart]

theorem splitWords_map_straight (text : List Char) :
    splitWords (text.map straight) = (splitWords text).map (List.map straight) := by
  rw [splitWords, splitWords, trim_map_straight, readAll_map_straight, ← Scan.embed_straight, Scan.embed_result,
    List.nil_append]

theorem map_ofList (f : Char → Char) (word : List Char) : (String.ofList word).map f = String.ofList (word.map f) :=
  String.toList_inj.1 (by rw [String.toList_map, String.toList_ofList, String.toList_ofList])

/-- The scan of a text when `n` of the characters that trimming leaves are read. -/
def scanned (n : Nat) (text : String) : Scan := Scan.start.readAll ((trim text.toList).take n)

/-- With straight quotes for the curved ones a text has the same words, up to the quotes in them. They begin and end
where they did: after every character as many words are finished, and as much of the next one is read. -/
theorem curved_quotes_read_as_straight (text : String) :
    words (text.map straight) = (words text).map (String.map straight) ∧
      (words (text.map straight)).length = (words text).length ∧
      ∀ n, scanned n (text.map straight) = (scanned n text).straighten := by
  have hwords : words (text.map straight) = (words text).map (String.map straight) := by
    simp only [words, String.toList_map, splitWords_map_straight, List.map_map, Function.comp_def, map_ofList]
  refine ⟨hwords, by rw [hwords, List.length_map], fun n => ?_⟩
  rw [scanned, scanned, String.toList_map, trim_map_straight, ← List.map_take, readAll_map_straight]

example : words "“a b\" \\”c '“'" = ["a b", "”c", "\""] := by decide +kernel

namespace Scan

/-- Outside of quotes, with no escape pending. -/
structure AtRest (s : Scan) : Prop where
  double : s.double = false
  single : s.single = false
  escaped : s.escaped = false

theorem AtRest.read_space {s : Scan} (h : s.AtRest) : s.read ' ' = start.embed id s.result := by
  obtain ⟨words, word, double, single, escaped⟩ := s
  obtain ⟨rfl, rfl, rfl⟩ := h
  cases word with
  | nil => simp [read, flush, result, start, embed]
  | cons c word => simp [read, flush, result, start, embed]

theorem AtRest.result_space {s : Scan} (h : s.AtRest) (text : List Char) :
    (s.readAll (' ' :: text)).result = s.result ++ (start.readAll text).result := by
  have hspace : s.readAll (' ' :: text) = (s.read ' ').readAll text := rfl
  have hembed : (start.readAll text).embed id s.result = (start.embed id s.result).readAll text := by
    rw [embed_readAll neutral_id, List.map_id]
  rw [hspace, h.read_space, ← hembed, embed_result, List.map_id_fun, List.map_id]

theorem flush_words_ne_nil {s : Scan} (h : ∀ w ∈ s.words, w ≠ []) : ∀ w ∈ s.flush.words, w ≠ [] := by
  unfold flush
  split
  · exact h
  · rename_i hword
    exact List.forall_mem_cons.2 ⟨by simpa using hword, h⟩

theorem read_words_ne_nil {s : Scan} (h : ∀ w ∈ s.words, w ≠ []) (c : Char) : ∀ w ∈ (s.read c).words, w ≠ [] := by
  by_cases he : s.escaped = true
  · rw [read, if_pos he]
    cases unescape c <;> exact h
  · rw [read, if_neg he]
    split_ifs with hspace hdouble
    · exact h
    · exact flush_words_ne_nil h
    all_goals exact h

theorem readAll_words_ne_nil {s : Scan} (h : ∀ w ∈ s.words, w ≠ []) (text : List Char) :
    ∀ w ∈ (s.readAll text).words, w ≠ [] := by
  induction text generalizing s with
  | nil => exact h
  | cons c text ih => exact ih (read_words_ne_nil h c)

end Scan

theorem ne_nil_of_mem_splitWords {text word : List Char} (h : word ∈ splitWords text) : word ≠ [] := by
  have hread := Scan.readAll_words_ne_nil (s := Scan.start) (by simp [Scan.start]) (trim text)
  exact Scan.flush_words_ne_nil hread word (List.mem_reverse.1 h)

theorem bare_of_trim_eq {s : List Char} (h : trim s = s) : Bare s := h ▸ bare_trim s

theorem trim_space_between {a b : List Char} (ha : Bare a) (hb : Bare b) (hane : a ≠ []) (hbne : b ≠ []) :
    trim (a ++ ' ' :: b) = a ++ ' ' :: b := by
  refine trim_eq_self ?_ ?_
  · rw [List.head?_append_of_ne_nil _ hane]
    exact ha.first
  · have hlast : (a ++ ' ' :: b).getLast? = b.getLast? := by
      rw [List.getLast?_append_of_ne_nil _ (List.cons_ne_nil _ _), List.getLast?_cons_of_ne_nil hbne]
    rw [hlast]
    exact hb.last

theorem splitWords_space_between {a b : List Char} (ha : Bare a) (hb : Bare b)
    (hrest : (Scan.start.readAll a).AtRest) : splitWords (a ++ ' ' :: b) = splitWords a ++ splitWords b := by
  have hspace : ∀ c ∈ [' '], isBlank c = true := List.forall_mem_singleton.2 rfl
  have hnone : ∀ c ∈ ([] : List Char), isBlank c = true := by simp
  have htrima : trim a = a := trim_eq_self ha.first ha.last
  have htrimb : trim b = b := trim_eq_self hb.first hb.last
  -- Where one of the texts is empty, the space is at an end and trimmed away.
  by_cases hane : a = []
  · subst hane
    have htrim : trim (' ' :: b) = b := by simpa using trim_append_blanks hspace hnone hb
    rw [List.nil_append, splitWords, splitWords, splitWords, htrim, htrimb]
    rfl
  by_cases hbne : b = []
  · subst hbne
    have htrim : trim (a ++ [' ']) = a := by simpa using trim_append_blanks hnone hspace ha
    rw [splitWords, splitWords, splitWords, htrim, htrima]
    exact (List.append_nil _).symm
  · rw [splitWords, trim_space_between ha hb hane hbne, Scan.readAll_append, hrest.result_space, splitWords,
      splitWords, htrima, htrimb]

/-- Two texts with a space between them have the words of both, if the first leaves no quote open and no escape
pending; the second may. No text has an empty word. -/
theorem words_space_between :
    (∀ a b : String, Bare a.toList → Bare b.toList → (Scan.start.readAll a.toList).AtRest →
      words (a ++ " " ++ b) = words a ++ words b) ∧
      ∀ text : String, ∀ word ∈ words text, word ≠ "" := by
  refine ⟨fun a b ha hb hrest => ?_, fun text word hword => ?_⟩
  · have htext : (a ++ " " ++ b).toList = a.toList ++ ' ' :: b.toList := by simp
    rw [words, htext, splitWords_space_between ha hb hrest, List.map_append]
    rfl
  · obtain ⟨w, hw, rfl⟩ := List.mem_map.1 hword
    exact fun he => ne_nil_of_mem_splitWords hw (by simpa using he)

theorem open_quote_may_follow : Bare "say \"a b\" it\\'s 'c d'".toList ∧ Bare "“e f".toList ∧
    (Scan.start.readAll "say \"a b\" it\\'s 'c d'".toList).AtRest ∧
    words ("say \"a b\" it\\'s 'c d'" ++ " " ++ "“e f") = ["say", "a b", "it's", "c", "d", "e f"] := by
  have hfirst : Bare "say \"a b\" it\\'s 'c d'".toList := bare_of_trim_eq (by decide +kernel)
  have hsecond : Bare "“e f".toList := bare_of_trim_eq (by decide +kernel)
  have hrest : (Scan.start.readAll "say \"a b\" it\\'s 'c d'".toList).AtRest :=
    ⟨by decide +kernel, by decide +kernel, by decide +kernel⟩
  refine ⟨hfirst, hsecond, hrest, ?_⟩
  rw [words_space_between.1 _ _ hfirst hsecond hrest]
  decide +kernel

/-- The characters that a scan does not take as they stand, apart from the space. -/
def marks : List Char := ['\\', '\'', '"', '“', '”']

theorem Scan.read_unmarked {words : List (List Char)} {word : List Char} {c : Char} (h : c ∉ marks) :
    (outside words word).read c = if c = ' ' then (outside words word).flush else outside words (c :: word) := by
  simp only [marks, List.mem_cons, List.not_mem_nil, or_false, not_or] at h
  obtain ⟨hslash, hsingle, hquotes⟩ := h
  have hdouble : isDoubleQuote c = false := by simp [isDoubleQuote, hquotes]
  simp [read, outside, push, hslash, hsingle, hdouble]

theorem Scan.flush_outside (words : List (List Char)) (word : List Char) :
    (outside words word).flush = outside (([word].filter (· ≠ [])).map List.reverse ++ words) [] := by
  cases word <;> rfl

theorem Scan.result_unmarked {text : List Char} (h : ∀ c ∈ text, c ∉ marks) (words : List (List Char))
    {word : List Char} (hword : ' ' ∉ word) : ((outside words word).readAll text).result =
      words.reverse ++ ((word.reverse ++ text).splitOn ' ').filter (· ≠ []) := by
  have alone (word : List Char) (h : ' ' ∉ word) : word.reverse.splitOn ' ' = [word.reverse] :=
    List.splitOn_eq_singleton (by simpa using h)
  induction text generalizing words word with
  | nil =>
    have hread : (outside words word).readAll [] = outside words word := rfl
    rw [hread, result, flush_outside, List.append_nil, alone word hword]
    cases word <;> simp [outside]
  | cons c text ih =>
    obtain ⟨hc, htext⟩ := List.forall_mem_cons.1 h
    have hread : (outside words word).readAll (c :: text) = ((outside words word).read c).readAll text := rfl
    rw [hread, read_unmarked hc]
    by_cases hspace : c = ' '
    · subst hspace
      rw [if_pos rfl, flush_outside, ih htext _ List.not_mem_nil, List.splitOn_append_cons_self, alone word hword]
      cases word <;> simp
    · have hcons : ' ' ∉ c :: word := by simp [Ne.symm hspace, hword]
      have hmore : (c :: word).reverse ++ text = word.reverse ++ c :: text := by simp
      rw [if_neg hspace, ih htext _ hcons, hmore]

theorem mem_of_mem_trim {text : List Char} {c : Char} (h : c ∈ trim text) : c ∈ text :=
  List.dropWhile_subset isBlank ((List.rdropWhile_prefix isBlank _).subset h)

theorem splitWords_unmarked {text : List Char} (h : ∀ c ∈ text, c ∉ marks) :
    splitWords text = ((trim text).splitOn ' ').filter (· ≠ []) :=
  Scan.result_unmarked (fun c hc => h c (mem_of_mem_trim hc)) [] List.not_mem_nil

/-- Each run of spaces as one space: a space that another one follows is left out. -/
def squeeze : List Char → List Char
  | [] => []
  | c :: rest => if c = ' ' ∧ rest.head? = some ' ' then squeeze rest else c :: squeeze rest

theorem length_squeeze_le (text : List Char) : (squeeze text).length ≤ text.length := by
  induction text with
  | nil => rfl
  | cons c rest ih =>
    rw [squeeze]
    split <;> simp only [List.length_cons] <;> omega

theorem squeeze_eq_self_iff {text : List Char} : squeeze text = text ↔ ¬ [' ', ' '] <:+: text := by
  induction text with
  | nil => simp [squeeze]
  | cons c rest ih =>
    rw [squeeze, pair_infix_cons]
    split
    · rename_i h
      have hle := length_squeeze_le rest
      have hne : squeeze rest ≠ c :: rest := fun he => by
        have hlength := congrArg List.length he
        rw [List.length_cons] at hlength
        omega
      exact iff_of_false hne (not_not_intro (.inl h))
    · rename_i h
      rw [List.cons.injEq, ih]
      simp [h]

/-- The pieces between spaces that are not empty, with one space between them. -/
def joined (text : List Char) : List Char := [' '].intercalate ((text.splitOn ' ').filter (· ≠ []))

theorem joined_space (text : List Char) : joined (' ' :: text) = joined text := by
  have hsplit : (' ' :: text).splitOn ' ' = [] :: text.splitOn ' ' := List.splitOn_append_cons_self [] text
  rw [joined, hsplit]
  rfl

theorem joined_cons {c : Char} {text : List Char} (hc : c ≠ ' ') (h : text.head? ≠ some ' ') :
    joined (c :: text) = c :: joined text := by
  cases text with
  | nil => simp [joined, hc, List.splitOn_cons_eq_if_modifyHead]
  | cons d text =>
    have hd : d ≠ ' ' := by simpa using h
    obtain ⟨p, ps, hp⟩ := List.exists_cons_of_ne_nil (List.splitOn_ne_nil ' ' text)
    simp [joined, hc, hd, hp, List.splitOn_cons_eq_if_modifyHead]

theorem exists_piece {text : List Char} (h : ∃ c ∈ text, c ≠ ' ') :
    ∃ p ps, (text.splitOn ' ').filter (· ≠ []) = p :: ps := by
  induction text with
  | nil => simp at h
  | cons c text ih =>
    obtain ⟨p, ps, hp⟩ := List.exists_cons_of_ne_nil (List.splitOn_ne_nil ' ' text)
    by_cases hc : c = ' '
    · subst hc
      have hrest : ∃ c ∈ text, c ≠ ' ' := by simpa using h
      have hsplit : (' ' :: text).splitOn ' ' = [] :: text.splitOn ' ' := List.splitOn_append_cons_self [] text
      rw [hsplit]
      exact ih hrest
    · exact ⟨c :: p, ps.filter (· ≠ []), by simp [hc, hp, List.splitOn_cons_eq_if_modifyHead]⟩

theorem joined_cons_space {c : Char} {text : List Char} (hc : c ≠ ' ') (h : ∃ d ∈ text, d ≠ ' ') :
    joined (c :: ' ' :: text) = c :: ' ' :: joined text := by
  have hsplit : (c :: ' ' :: text).splitOn ' ' = [c] :: text.splitOn ' ' := by
    rw [← List.singleton_append, List.splitOn_append_cons_self, List.splitOn_eq_singleton (by simpa using Ne.symm hc)]
    rfl
  obtain ⟨p, ps, hp⟩ := exists_piece h
  have hpieces : ([c] :: text.splitOn ' ').filter (· ≠ []) = [c] :: p :: ps := by rw [← hp]; rfl
  rw [joined, joined, hsplit, hpieces, hp, List.intercalate_cons_cons]
  rfl

theorem squeeze_eq_joined {text : List Char} (h : ∀ c ∈ text.getLast?, c ≠ ' ') :
    squeeze text = (if text.head? = some ' ' then [' '] else []) ++ joined text := by
  induction text with
  | nil => rfl
  | cons c rest ih =>
    have hrest : ∀ d ∈ rest.getLast?, d ≠ ' ' := fun d hd => h d (by simp [List.getLast?_cons, Option.mem_def.1 hd])
    have hrec := ih hrest
    by_cases hhead : rest.head? = some ' '
    · obtain ⟨rest, rfl⟩ : ∃ tail, rest = ' ' :: tail := List.head?_eq_some_iff.1 hhead
      rw [if_pos hhead, joined_space] at hrec
      by_cases hc : c = ' '
      · subst hc
        rw [squeeze, if_pos ⟨rfl, rfl⟩, hrec, if_pos List.head?_cons, joined_space, joined_space]
      · have hpiece : ∃ d ∈ rest, d ≠ ' ' := by
          obtain ⟨d, hd⟩ := Option.isSome_iff_exists.1 (List.getLast?_isSome.2 (List.cons_ne_nil ' ' rest))
          have hne := hrest d hd
          exact ⟨d, (List.mem_cons.1 (List.mem_of_getLast? hd)).resolve_left hne, hne⟩
        rw [squeeze, if_neg (fun hs => hc hs.1), hrec, if_neg (by simpa using hc), joined_cons_space hc hpiece]
        rfl
    · rw [if_neg hhead, List.nil_append] at hrec
      rw [squeeze, if_neg (fun hs => hhead hs.2), hrec]
      by_cases hc : c = ' '
      · subst hc
        rw [if_pos List.head?_cons, joined_space]
        rfl
      · rw [if_neg (by simpa using hc), joined_cons hc hhead]
        rfl

theorem squeeze_trim (text : List Char) : squeeze (trim text) = joined (trim text) := by
  have hbare := bare_trim text
  have hlast : ∀ c ∈ (trim text).getLast?, c ≠ ' ' := by
    rintro c hc rfl
    exact absurd (hbare.last ' ' hc) (by decide)
  have hhead : (trim text).head? ≠ some ' ' := fun hs => absurd (hbare.first ' ' hs) (by decide)
  rw [squeeze_eq_joined hlast, if_neg hhead]
  rfl

/-- The words of a text without quotes and backslashes are the pieces between its spaces that are not empty, once
blanks of all kinds are trimmed off its ends. With a space between them they make up the trimmed text with one space
for each run of spaces, which is the trimmed text itself unless it has two spaces in a row. -/
theorem plain_text_is_cut_at_spaces {text : String} (h : ∀ c ∈ text.toList, c ∉ marks) :
    words text = (((trim text.toList).splitOn ' ').filter (· ≠ [])).map String.ofList ∧
      " ".intercalate (words text) = String.ofList (squeeze (trim text.toList)) ∧
      (" ".intercalate (words text) = trimmed text ↔ ¬ [' ', ' '] <:+: trim text.toList) := by
  have hwords : words text = (((trim text.toList).splitOn ' ').filter (· ≠ [])).map String.ofList := by
    rw [words, splitWords_unmarked h]
  have hjoined : " ".intercalate (words text) = String.ofList (squeeze (trim text.toList)) := by
    rw [← String.toList_inj, String.toList_intercalate, hwords, squeeze_trim, joined, String.toList_ofList]
    simp
  refine ⟨hwords, hjoined, ?_⟩
  rw [hjoined, trimmed, ← squeeze_eq_self_iff, String.ofList_inj]

theorem tab_is_kept : (∀ c ∈ "\n ship  it\tnow  ok  ".toList, c ∉ marks) ∧
    words "\n ship  it\tnow  ok  " = ["ship", "it\tnow", "ok"] ∧
    " ".intercalate (words "\n ship  it\tnow  ok  ") ≠ trimmed "\n ship  it\tnow  ok  " := by
  have hplain : ∀ c ∈ "\n ship  it\tnow  ok  ".toList, c ∉ marks := by
    simpa using List.all_eq_true.1 (show "\n ship  it\tnow  ok  ".toList.all (· ∉ marks) = true by decide +kernel)
  obtain ⟨hwords, -, hself⟩ := plain_text_is_cut_at_spaces hplain
  refine ⟨hplain, hwords.trans (by decide +kernel), fun he => hself.1 he ?_⟩
  exact ⟨"ship".toList, "it\tnow  ok".toList, by decide⟩

end ChatRouter.Text
