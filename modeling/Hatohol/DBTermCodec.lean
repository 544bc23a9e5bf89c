import Hatohol.Params
import Hatohol.Sql.Alternatives
import Hatohol.Sql.Dialects

/-!
# Terms of SQL texts

`DBTermCodec` (server/src/DBTermCodec.cc) writes the values that stand in a condition. The
reader gets back the value that was written, whatever characters a text holds.
-/

namespace Hatohol

open Sql

namespace DBTermCodec

/-- `enc(const int &)` and `enc(const uint64_t &)`: decimal digits. -/
def encInt (val : Int) : String := toString val

/-- `enc(const string &)`: the text between quotations, each quotation in it doubled. -/
def encString (val : CString) : String := String.ofList (quoteChars val.text.toList)

example : encString (.ofString "it's") = "'it''s'" := by decide

theorem denotes_encInt (val : Int) : DenotesLiteral (encInt val) (.int val) := spells_int val

theorem denotes_encString (val : CString) : DenotesLiteral (encString val) (.str val.text) := by
  simpa [DenotesLiteral, encString, Literal.token] using spells_quoted val.text

/-! ## What a database reads of a text -/

theorem toList_encString (val : CString) (text : String) :
    (encString val ++ text).toList = '\'' :: (doubled val.text.toList ++ '\'' :: text.toList) := by
  simp [encString, quoteChars, doubled]

/-- `enc(const string &)` knows nothing of backslashes (DBTermCodec.cc:36-62). The codec is the same
    for both databases (DBAgent.cc:729-732). -/
theorem reads_encString_iff (d : Dialect) (val : CString) (text : String) :
    readString d (encString val ++ text).toList = some (val.text.toList, text.toList) ↔
      text.toList.head? ≠ some '\'' ∧ (d = .sqlite ∨ keepsBackslashes val.text.toList = true) := by
  rw [toList_encString]
  cases d with
  | sqlite =>
    rw [readString, readBody_sqlite_iff]
    simp
  | mysql =>
    rw [readString, readBody_mysql_iff]
    simp

/-- MySQL takes the first of two quotations for an escaped one and ends the string at the second. -/
theorem encString_broken_out :
    readString .mysql (encString (.ofString "\\' OR 1=1 -- ") ++ "").toList =
        some (['\''], " OR 1=1 -- '".toList) ∧
      readString .mysql (encString (.ofString "\\' OR 1=1 -- ") ++ "").toList ≠
        some ("\\' OR 1=1 -- ".toList, "".toList) := by
  decide +kernel

/-! ## Conditions that look up or delete rows by their keys -/

section Keys

variable {column column' : String} (hcolumn : isName column) (hcolumn' : isName column')
  (row : String → Value)

include hcolumn

theorem selects_eq_int (n : Int) :
    selects (column ++ "=" ++ encInt n) row = (row column == .int n) := by
  rw [(denotes_eq hcolumn (denotes_encInt n)).selects_eq, Bool.eq_iff_iff]
  simp [Text.wellFormed, Text.alts, Text.alternatives, picks, compareValue_eq_true, Literal.value]

/-- Rows with one of several numbers in a column. The keyword is `in`, in capitals or not. -/
theorem selects_in_nat {kw : String} (hkw : Opens kw.toList [.kw .kwIn, .lparen])
    (hsep : ∀ c ∈ kw.toList.head?, isSeparator c) (ns : List Nat) :
    selects (column ++ kw ++ commaSeparated (ns.map fun (n : Nat) => encInt n) ++ ")") row =
      ns.any fun n => row column == .int n := by
  have hlist := denotes_inList hcolumn hkw hsep (fun n : Nat => encInt n) (fun n => .int n)
    (fun n => denotes_encInt n) ns
  rw [hlist.selects_eq, Bool.eq_iff_iff]
  cases ns with
  | nil => simp [Text.wellFormed]
  | cons n ns =>
    simp [Text.wellFormed, Text.alts, Text.alternatives, picks, Text.holds_inList, Literal.value]

include hcolumn'

/-- Rows with a number in one column and a text in another. -/
theorem selects_eq_pair (n : Int) (s : CString) :
    selects (column ++ "=" ++ encInt n ++ " AND " ++ column' ++ "=" ++ encString s) row =
      (row column == .int n && row column' == .str s.text) := by
  have hpair := (denotes_eq hcolumn (denotes_encInt n)).and
    (denotes_eq hcolumn' (denotes_encString s))
  simp only [← String.append_assoc] at hpair
  rw [hpair.selects_eq, Bool.eq_iff_iff]
  simp [Text.wellFormed, Text.alts, Text.alternatives, conjoin, picks, compareValue_eq_true,
    Literal.value]

/-- Rows with one of several texts in one column and a number in another. The keyword is `in`, in
    capitals or not. -/
theorem selects_in_pair {kw : String} (hkw : Opens kw.toList [.kw .kwIn, .lparen])
    (hsep : ∀ c ∈ kw.toList.head?, isSeparator c) (ids : List CString) (n : Int) :
    selects (column ++ kw ++ commaSeparated (ids.map encString) ++ ")" ++ " AND " ++ column' ++
        "=" ++ encInt n) row =
      (ids.any (fun id => row column == .str id.text) && row column' == .int n) := by
  have hpair := (denotes_inList hcolumn hkw hsep encString (.str ·.text) denotes_encString ids).and
    (denotes_eq hcolumn' (denotes_encInt n))
  simp only [← String.append_assoc] at hpair
  rw [hpair.selects_eq, Bool.eq_iff_iff]
  cases ids with
  | nil => simp [Text.wellFormed]
  | cons id ids =>
    simp [Text.wellFormed, Text.alts, Text.alternatives, conjoin, picks, compareValue_eq_true,
      Text.holds_inList, Literal.value]

end Keys

end DBTermCodec

end Hatohol
