import ChatRouter.Text.Words
import Mathlib.Data.List.Basic

set_option autoImplicit false

namespace ChatRouter.Text

/-- Read as it stands outside of quotes, and within a word. -/
def isPlain (c : Char) : Bool := !isBlank c && c != '\\' && !isDoubleQuote c && c != '\''

def escape (c : Char) : List Char := if c = '\\' ∨ isDoubleQuote c = true then ['\\', c] else [c]

def quote (s : List Char) : List Char := '"' :: (s.flatMap escape ++ ['"'])

def argumentText (arguments : List (List Char)) : List Char := arguments.flatMap fun a => ' ' :: quote a

def commandLine (name : List Char) (arguments : List (List Char)) : List Char := name ++ argumentText arguments

theorem trimLeft_eq_self {s : List Char} (h : ∀ c ∈ s.head?, isBlank c = false) : trimLeft s = s := by
  cases s with
  | nil => rfl
  | cons c s => exact List.dropWhile_cons_of_neg (by simp [h c rfl])

theorem trim_eq_self {s : List Char} (hfirst : ∀ c ∈ s.head?, isBlank c = false)
    (hlast : ∀ c ∈ s.getLast?, isBlank c = false) : trim s = s := by
  have hright : trimLeft s.reverse = s.reverse := trimLeft_eq_self fun c hc => by
    rw [List.head?_reverse] at hc
    exact hlast c hc
  rw [trim, trimLeft_eq_self hfirst, trimRight, ← trimLeft, hright, List.reverse_reverse]

theorem not_blank_of_isPlain {c : Char} (h : isPlain c = true) : isBlank c = false := by
  simp only [isPlain, Bool.and_eq_true, Bool.not_eq_true'] at h
  exact h.1.1.1

theorem getLast?_argumentText {arguments : List (List Char)} (h : arguments ≠ []) :
    (argumentText arguments).getLast? = some '"' := by
  obtain ⟨first, last, rfl⟩ := (List.eq_nil_or_concat' arguments).resolve_left h
  have : argumentText (first ++ [last]) =
      argumentText first ++ ' ' :: '"' :: last.flatMap escape ++ ['"'] := by
    simp [argumentText, quote]
  rw [this, List.getLast?_concat]

/-- A command line neither begins nor ends with blanks: its last character is one of the name or the quote
that closes the last argument. -/
theorem trim_commandLine {name : List Char} (hname : ∀ c ∈ name, isPlain c = true) (hne : name ≠ [])
    (arguments : List (List Char)) : trim (commandLine name arguments) = commandLine name arguments := by
  refine trim_eq_self (fun c hc => ?_) fun c hc => ?_
  · rw [commandLine, List.head?_append_of_ne_nil _ hne] at hc
    exact not_blank_of_isPlain (hname c (List.mem_of_mem_head? hc))
  · by_cases ha : arguments = []
    · subst ha
      rw [commandLine, argumentText, List.flatMap_nil, List.append_nil] at hc
      exact not_blank_of_isPlain (hname c (List.mem_of_mem_getLast? hc))
    · rw [commandLine, List.getLast?_append, getLast?_argumentText ha] at hc
      cases hc
      decide

namespace Scan

variable {words : List (List Char)} {word : List Char}

def outside (words : List (List Char)) (word : List Char) : Scan := ⟨words, word, false, false, false⟩

def inside (words : List (List Char)) (word : List Char) : Scan := ⟨words, word, true, false, false⟩

theorem read_plain {c : Char} (h : isPlain c = true) : (outside words word).read c = outside words (c :: word) := by
  simp only [isPlain, Bool.and_eq_true, Bool.not_eq_true', bne_iff_ne] at h
  obtain ⟨⟨⟨hblank, hslash⟩, hdouble⟩, hsingle⟩ := h
  have hspace : c ≠ ' ' := by
    rintro rfl
    exact absurd hblank (by decide)
  simp [read, outside, push, hspace, hslash, hdouble, hsingle]

theorem readAll_plain {name : List Char} (h : ∀ c ∈ name, isPlain c = true) :
    (outside words word).readAll name = outside words (name.reverse ++ word) := by
  induction name generalizing word with
  | nil => rfl
  | cons c name ih =>
    obtain ⟨hc, hname⟩ := List.forall_mem_cons.1 h
    rw [readAll, List.foldl_cons, read_plain hc, ← readAll, ih hname, List.reverse_cons, List.append_assoc]
    rfl

theorem unescape_of_escaped {c : Char} (h : c = '\\' ∨ isDoubleQuote c = true) : unescape c = some c := by
  simp only [isDoubleQuote, Bool.or_eq_true, beq_iff_eq] at h
  rcases h with rfl | (rfl | rfl) | rfl <;> rfl

theorem readAll_escape (c : Char) : (inside words word).readAll (escape c) = inside words (c :: word) := by
  by_cases h : c = '\\' ∨ isDoubleQuote c = true
  · have hslash : (inside words word).read '\\' = ⟨words, word, true, false, true⟩ := rfl
    rw [escape, if_pos h, readAll, List.foldl_cons, hslash, List.foldl_cons, List.foldl_nil]
    simp [read, unescape_of_escaped h, push, inside]
  · rw [escape, if_neg h, readAll, List.foldl_cons, List.foldl_nil]
    obtain ⟨hslash, hdouble⟩ := not_or.1 h
    -- Spaces and single quotes are literal here, so every other character is.
    by_cases hspace : c = ' '
    · subst hspace
      rfl
    · by_cases hsingle : c = '\''
      · subst hsingle
        rfl
      · simp [read, inside, push, hspace, hslash, hdouble, hsingle]

theorem readAll_escaped (s : List Char) :
    (inside words word).readAll (s.flatMap escape) = inside words (s.reverse ++ word) := by
  induction s generalizing word with
  | nil => rfl
  | cons c s ih =>
    rw [List.flatMap_cons, readAll_append, readAll_escape, ih, List.reverse_cons, List.append_assoc]
    rfl

theorem readAll_quote (s : List Char) :
    (outside words word).readAll (quote s) = outside words (s.reverse ++ word) := by
  have hopen : (outside words word).read '"' = inside words word := rfl
  rw [quote, readAll, List.foldl_cons, hopen, ← readAll, readAll_append, readAll_escaped]
  rfl

theorem result_arguments {arguments : List (List Char)} (h : ∀ a ∈ arguments, a ≠ []) (hword : word ≠ []) :
    ((outside words word).readAll (argumentText arguments)).result =
      words.reverse ++ word.reverse :: arguments := by
  induction arguments generalizing words word with
  | nil => simp [argumentText, readAll, result, flush, outside, hword]
  | cons a arguments ih =>
    obtain ⟨ha, harguments⟩ := List.forall_mem_cons.1 h
    have hspace : (outside words word).read ' ' = outside (word.reverse :: words) [] := by
      simp [read, outside, flush, hword]
    have hfirst : (outside words word).readAll (' ' :: quote a) =
        outside (word.reverse :: words) a.reverse := by
      rw [readAll, List.foldl_cons, hspace, ← readAll, readAll_quote, List.append_nil]
    rw [argumentText, List.flatMap_cons, readAll_append, hfirst, ← argumentText,
      ih harguments (by simpa using ha)]
    simp

end Scan

theorem splitWords_commandLine {name : List Char} {arguments : List (List Char)}
    (hname : ∀ c ∈ name, isPlain c = true) (hne : name ≠ []) (ha : ∀ a ∈ arguments, a ≠ []) :
    splitWords (commandLine name arguments) = name :: arguments := by
  have hstart : Scan.start.readAll name = Scan.outside [] name.reverse := by
    rw [show Scan.start = Scan.outside [] [] from rfl, Scan.readAll_plain hname, List.append_nil]
  rw [splitWords, trim_commandLine hname hne, commandLine, Scan.readAll_append, hstart,
    Scan.result_arguments ha (by simpa using hne)]
  simp

end ChatRouter.Text
