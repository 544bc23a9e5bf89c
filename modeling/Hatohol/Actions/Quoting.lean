import Hatohol.ActionExecArgMaker

/-!
# Quotation of the words of a command

The maker works on one character after another, whatever the calls of `readWord` are. A word that is
quoted comes back as it was, so that a command can be made from any words.
-/

namespace Hatohol

namespace ActionExecArgMaker

/-! ## One character after another -/

/-- What a character of the command does. -/
def feed (m : ActionExecArgMaker) (c : UInt8) : ActionExecArgMaker :=
  if separator.isSeparator c then separatorCallback c m else m.addWord [c]

/-- The words when the command ends here. -/
def words (m : ActionExecArgMaker) : List Bytes := m.pushbackCurrWord.argVect

/-- The text that has been read but not yet added. -/
def addRead (m : ActionExecArgMaker) (word : Bytes) : ActionExecArgMaker :=
  if word = [] then m else m.addWord word

/-- The maker when the separator that is pending has been notified. -/
def notified (parsable : ParsableString) (m : ActionExecArgMaker) : ActionExecArgMaker :=
  parsable.pendingNotifySeparator.elim m (separatorCallback · m)

theorem words_addWord (m : ActionExecArgMaker) (word : Bytes) :
    (m.addWord word).words = (m.addRead word).words := by
  by_cases hword : word = []
  · subst hword
    rw [addRead, if_pos rfl, words, words, pushbackCurrWord, pushbackCurrWord, addWord,
      List.append_nil]
    split <;> rfl
  · rw [addRead, if_neg hword]

theorem feed_addRead (m : ActionExecArgMaker) (word : Bytes) {c : UInt8}
    (hc : separator.isSeparator c = false) : (m.addRead word).feed c = m.addRead (word ++ [c]) := by
  have hne : word ++ [c] ≠ [] := List.append_ne_nil_of_right_ne_nil _ (List.cons_ne_nil _ _)
  rw [feed, if_neg (Bool.eq_false_iff.mp hc), addRead, addRead, if_neg hne]
  split
  · rename_i hword
    rw [hword, List.nil_append]
  · rw [addWord, addWord, addWord, List.append_assoc]

/-- A call of `readWord` ends with the text, or at a separator that it leaves pending. -/
theorem genericParse_spec (word text : Bytes) (m : ActionExecArgMaker) :
    let result := ParsableString.genericParse separator word text m
    (result.2.1.parsingPosition = none ∧
      (text.foldl feed (m.addRead word)).words = (result.2.2.addWord result.1).words) ∨
    ∃ rest, result.2.1.parsingPosition = some rest ∧
      text.foldl feed (m.addRead word) =
        rest.foldl feed (notified result.2.1 (result.2.2.addWord result.1)) := by
  induction text generalizing word m with
  | nil => exact .inl ⟨rfl, (m.words_addWord word).symm⟩
  | cons c rest ih =>
    rw [ParsableString.genericParse, List.foldl_cons]
    cases hc : separator.isSeparator c with
    | false =>
      rw [Bool.not_false, if_pos rfl, feed_addRead m word hc]
      exact ih (word ++ [c]) m
    | true =>
      rw [Bool.not_true, if_neg Bool.false_ne_true, feed, if_pos hc]
      by_cases hword : word = []
      · subst hword
        rw [List.length_nil, if_neg (Nat.lt_irrefl 0), addRead, if_pos rfl]
        exact ih [] (separatorCallback c m)
      · rw [if_pos (List.length_pos_iff.mpr hword), addRead, if_neg hword]
        exact .inr ⟨rest, rfl, rfl⟩

theorem words_readWords (parsable : ParsableString) (m : ActionExecArgMaker) :
    (readWords parsable m).words =
      (parsable.parsingPosition.elim m fun text =>
        text.foldl feed (notified parsable m)).words := by
  induction parsable, m using readWords.induct with
  | case1 parsable m hfinished =>
    have hposition : parsable.parsingPosition = none := Option.isNone_iff_eq_none.mp hfinished
    rw [readWords, if_pos hfinished, hposition]
    rfl
  | case2 parsable m hfinished result ih =>
    obtain ⟨position, pending⟩ := parsable
    cases position with
    | none => exact absurd rfl hfinished
    | some text =>
      rw [readWords, if_neg hfinished, ih]
      rcases genericParse_spec [] text (notified ⟨some text, pending⟩ m) with
        ⟨hnone, hwords⟩ | ⟨rest, hsome, hfold⟩
      · have hposition : result.2.1.parsingPosition = none := hnone
        rw [hposition]
        exact hwords.symm
      · have hposition : result.2.1.parsingPosition = some rest := hsome
        rw [hposition]
        exact (congrArg words hfold).symm

/-- The words of a command that holds no NUL. -/
theorem argVect_makeExecArg (m : ActionExecArgMaker) (argVect : List Bytes) {cmd : Bytes}
    (hcmd : 0 ∉ cmd) :
    (m.makeExecArg argVect cmd).argVect = (cmd.foldl feed (resetParser argVect)).words := by
  have hread := words_readWords (.new cmd) (resetParser argVect)
  rw [ParsableString.new, Bytes.c_str_of_notMem hcmd] at hread
  rw [makeExecArg, ParsableString.new, Bytes.c_str_of_notMem hcmd]
  exact hread

/-! ## Quotation -/

/-- A character inside of quotes. -/
def escape (c : UInt8) : Bytes := if c = quot ∨ c = backSlash then [backSlash, c] else [c]

def quote (word : Bytes) : Bytes := quot :: word.flatMap escape ++ [quot]

/-- A command whose words these are. -/
def commandLine (args : List Bytes) : Bytes := [space].intercalate (args.map quote)

theorem zero_notMem_escape {c : UInt8} (hc : c ≠ 0) : 0 ∉ escape c := by
  unfold escape
  split
  · simp [hc.symm, backSlash]
  · simp [hc.symm]

theorem zero_notMem_quote {word : Bytes} (hword : 0 ∉ word) : 0 ∉ quote word := by
  have hescape : 0 ∉ word.flatMap escape := by
    intro hzero
    obtain ⟨c, hc, hzero⟩ := List.mem_flatMap.mp hzero
    exact zero_notMem_escape (fun heq => hword (heq ▸ hc)) hzero
  simp [quote, quot, hescape]

theorem zero_notMem_commandLine {args : List Bytes} (hargs : ∀ word ∈ args, 0 ∉ word) :
    0 ∉ commandLine args := by
  induction args with
  | nil => exact List.not_mem_nil
  | cons word args ih =>
    have hword : 0 ∉ quote word := zero_notMem_quote (hargs word List.mem_cons_self)
    have hrest := ih fun word' hmem => hargs word' (List.mem_cons_of_mem _ hmem)
    cases args with
    | nil => simpa [commandLine] using hword
    | cons word' args =>
      rw [commandLine, List.map_cons, List.map_cons, List.intercalate_cons_cons, ← List.map_cons]
      simp only [List.mem_append, not_or]
      exact ⟨⟨hword, by decide⟩, hrest⟩

/-- Between quotes, after the text so far. -/
def quoted (argVect : List Bytes) (word : Bytes) : ActionExecArgMaker := ⟨true, false, word, argVect⟩

/-- Outside of quotes, after the text so far. -/
def unquoted (argVect : List Bytes) (word : Bytes) : ActionExecArgMaker :=
  ⟨false, false, word, argVect⟩

theorem foldl_escape (argVect : List Bytes) (word : Bytes) (c : UInt8) :
    (escape c).foldl feed (quoted argVect word) = quoted argVect (word ++ [c]) := by
  unfold escape
  split
  · rename_i hspecial
    rcases hspecial with rfl | rfl
    · rfl
    · rfl
  · rename_i hplain
    obtain ⟨hquot, hbackSlash⟩ := not_or.mp hplain
    rw [List.foldl_cons, List.foldl_nil, feed]
    by_cases hspace : c = space
    · subst hspace
      rfl
    · have hnone : separator.isSeparator c = false := by
        simp [separator, hspace, hquot, hbackSlash]
      rw [if_neg (Bool.eq_false_iff.mp hnone)]
      rfl

theorem foldl_flatMap_escape (argVect : List Bytes) (word rest : Bytes) :
    (rest.flatMap escape).foldl feed (quoted argVect word) = quoted argVect (word ++ rest) := by
  induction rest generalizing word with
  | nil => rw [List.flatMap_nil, List.foldl_nil, List.append_nil]
  | cons c rest ih =>
    rw [List.flatMap_cons, List.foldl_append, foldl_escape, ih, List.append_assoc,
      List.singleton_append]

theorem foldl_quote (argVect : List Bytes) (word : Bytes) :
    (quote word).foldl feed (unquoted argVect []) = unquoted argVect word := by
  have hopen : feed (unquoted argVect []) quot = quoted argVect [] := rfl
  have hclose : feed (quoted argVect word) quot = unquoted argVect word := rfl
  rw [quote, List.cons_append, List.foldl_cons, hopen, List.foldl_append, foldl_flatMap_escape,
    List.nil_append, List.foldl_cons, List.foldl_nil, hclose]

theorem feed_space (argVect : List Bytes) {word : Bytes} (hword : word ≠ []) :
    feed (unquoted argVect word) space = unquoted (argVect ++ [word]) [] := by
  have hpush : (unquoted argVect word).pushbackCurrWord = unquoted (argVect ++ [word]) [] :=
    if_neg hword
  change { (unquoted argVect word).pushbackCurrWord with byBackSlash := false } = _
  rw [hpush]
  rfl

theorem words_commandLine (argVect : List Bytes) {args : List Bytes} (hargs : [] ∉ args) :
    ((commandLine args).foldl feed (unquoted argVect [])).words = argVect ++ args := by
  induction args generalizing argVect with
  | nil => exact (List.append_nil _).symm
  | cons word args ih =>
    have hword : word ≠ [] := fun hnil => hargs (hnil ▸ List.mem_cons_self)
    have hrest := ih (argVect ++ [word]) fun hmem => hargs (List.mem_cons_of_mem _ hmem)
    cases args with
    | nil =>
      have hline : commandLine [word] = quote word := by simp [commandLine]
      have hpush : (unquoted argVect word).pushbackCurrWord = unquoted (argVect ++ [word]) [] :=
        if_neg hword
      rw [hline, foldl_quote, words, hpush]
      rfl
    | cons word' args =>
      have hline : commandLine (word :: word' :: args) =
          quote word ++ [space] ++ commandLine (word' :: args) := by
        rw [commandLine, List.map_cons, List.map_cons, List.intercalate_cons_cons, ← List.map_cons]
        rfl
      rw [hline, List.foldl_append, List.foldl_append, foldl_quote, List.foldl_cons, List.foldl_nil,
        feed_space argVect hword, hrest, List.append_assoc, List.singleton_append]

/-- A command that is made from words is cut into these words, whatever the maker has been used for
    before. -/
theorem makeExecArg_commandLine (m : ActionExecArgMaker) (argVect : List Bytes)
    {args : List Bytes} (hargs : ∀ word ∈ args, word ≠ [] ∧ 0 ∉ word) :
    (m.makeExecArg argVect (commandLine args)).argVect = argVect ++ args := by
  rw [m.argVect_makeExecArg argVect (zero_notMem_commandLine fun word hmem => (hargs word hmem).2)]
  exact words_commandLine argVect fun hmem => (hargs [] hmem).1 rfl

/-- The words `a\` and `'b c`. -/
theorem makeExecArg_commandLine_two_words :
    ((resetParser []).makeExecArg [] (commandLine [[0x61, 0x5c], [0x27, 0x62, 0x20, 0x63]])).argVect =
      [[0x61, 0x5c], [0x27, 0x62, 0x20, 0x63]] :=
  makeExecArg_commandLine (resetParser []) [] (by decide)

end ActionExecArgMaker

end Hatohol
