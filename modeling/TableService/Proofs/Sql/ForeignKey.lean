/-
  Definitions of columns and foreign keys as they are read.

  * A `ForeignKey` is what a REFERENCES says; `readForeignKey_tokens`: its tokens are read as that
    key.
  * A `ColumnDefinition` is what stands in the definition of a column besides its type.  The type
    may be any text, so it has to be known to read a definition; what stands after it is read as
    tokens (`readColumn_of_lexes`).
  * `readDefinitions?` reads the definitions of a table: those of columns with the given types, and
    after them only foreign keys.
-/
import TableService.KeyAction
import TableService.Proofs.Sql.Token

namespace TableService.Sql

/-! ## Foreign keys -/

/-- What a foreign key refers to. -/
structure ForeignKey where
  table : String
  column : String
  onDelete : Option KeyAction
  onUpdate : Option KeyAction
  deriving DecidableEq

/-- The tokens of an action. -/
def actionTokens : KeyAction → List Token
  | .cascade => [.word "CASCADE"]
  | .setNull => [.word "SET", .word "NULL"]
  | .restrict => [.word "RESTRICT"]
  | .noAction => [.word "NO", .word "ACTION"]
  | .setDefault => [.word "SET", .word "DEFAULT"]

/-- The tokens of what happens on an event. -/
def onTokens (event : String) : Option KeyAction → List Token
  | some a => .word "ON" :: .word event :: actionTokens a
  | none => []

/-- The tokens of a foreign key. -/
def ForeignKey.tokens (k : ForeignKey) : List Token :=
  .word "REFERENCES" :: .name k.table :: .sign '(' :: .name k.column :: .sign ')' ::
    (onTokens "DELETE" k.onDelete ++ onTokens "UPDATE" k.onUpdate)

/-- Reads an action, with what follows. -/
def readAction? : List Token → Option (KeyAction × List Token)
  | .word "CASCADE" :: ts => some (.cascade, ts)
  | .word "SET" :: .word "NULL" :: ts => some (.setNull, ts)
  | .word "RESTRICT" :: ts => some (.restrict, ts)
  | .word "NO" :: .word "ACTION" :: ts => some (.noAction, ts)
  | .word "SET" :: .word "DEFAULT" :: ts => some (.setDefault, ts)
  | _ => none

/-- Reads what happens on an event, if that is said, with what follows. -/
def readOn? (event : String) (ts : List Token) : Option (Option KeyAction × List Token) :=
  if ts.take 2 = [.word "ON", .word event] then
    (readAction? (ts.drop 2)).map fun (a, ts) => (some a, ts)
  else some (none, ts)

/-- Reads a foreign key. -/
def readForeignKey? : List Token → Option ForeignKey
  | .word "REFERENCES" :: .name table :: .sign '(' :: .name column :: .sign ')' :: ts => do
    let (onDelete, ts) ← readOn? "DELETE" ts
    let (onUpdate, ts) ← readOn? "UPDATE" ts
    if ts = [] then some ⟨table, column, onDelete, onUpdate⟩ else none
  | _ => none

theorem readAction_tokens (a : KeyAction) (ts : List Token) :
    readAction? (actionTokens a ++ ts) = some (a, ts) := by
  cases a <;> rfl

theorem readOn_tokens (event : String) (a : Option KeyAction) (ts : List Token)
    (h : ts.take 2 ≠ [.word "ON", .word event]) :
    readOn? event (onTokens event a ++ ts) = some (a, ts) := by
  cases a with
  | none => exact if_neg h
  | some a =>
    have htake : (onTokens event (some a) ++ ts).take 2 = [.word "ON", .word event] := rfl
    have hdrop : (onTokens event (some a) ++ ts).drop 2 = actionTokens a ++ ts := rfl
    rw [readOn?, if_pos htake, hdrop, readAction_tokens]
    rfl

/-- **The tokens of a foreign key are read as that key.** -/
theorem readForeignKey_tokens (k : ForeignKey) : readForeignKey? k.tokens = some k := by
  obtain ⟨table, column, onDelete, onUpdate⟩ := k
  have hdelete := readOn_tokens "DELETE" onDelete (onTokens "UPDATE" onUpdate) (by
    cases onUpdate <;> simp [onTokens])
  have hupdate := readOn_tokens "UPDATE" onUpdate [] (by simp)
  rw [List.append_nil] at hupdate
  simp [ForeignKey.tokens, readForeignKey?, hdelete, hupdate]

/-! ## Definitions -/

/-- What stands in the definition of a column besides its type. -/
structure ColumnDefinition where
  name : String
  required : Bool
  unique : Bool
  key : Option ForeignKey
  deriving DecidableEq

namespace ColumnDefinition

/-- The tokens after the type. -/
def tokens (c : ColumnDefinition) : List Token :=
  (if c.required then [.word "NOT", .word "NULL"] else []) ++
    ((if c.unique then [.word "UNIQUE"] else []) ++ (c.key.map ForeignKey.tokens).getD [])

end ColumnDefinition

/-- Reads words at the front if they are there. -/
def readWords (words : List String) (ts : List Token) : Bool × List Token :=
  match (words.map Token.word).isPrefixOf? ts with
  | some ts => (true, ts)
  | none => (false, ts)

/-- Reads a foreign key, if there is anything to read. -/
def readKey? (ts : List Token) : Option (Option ForeignKey) :=
  if ts = [] then some none else (readForeignKey? ts).map some

/-- Reads what stands after the type of the column of this name. -/
def readAfterType? (name : String) (ts : List Token) : Option ColumnDefinition :=
  let (required, ts) := readWords ["NOT", "NULL"] ts
  let (unique, ts) := readWords ["UNIQUE"] ts
  (readKey? ts).map (⟨name, required, unique, ·⟩)

/-- Reads the definition of a column with this type. -/
def readColumn? (d : Dialect) (type text : String) : Option ColumnDefinition := do
  let rest ← [d.quoteChar].isPrefixOf? text.toList
  let (name, rest) ← readName d.quoteChar rest
  let rest ← (' ' :: type.toList).isPrefixOf? rest
  readAfterType? (String.ofList name) (← tokens d rest)

/-- Reads a foreign key that is a definition of its own, with the column that has it. -/
def readConstraint? (d : Dialect) (text : String) : Option (String × ForeignKey) :=
  match tokens d text.toList with
  | some (.word "FOREIGN" :: .word "KEY" :: .sign '(' :: .name column :: .sign ')' :: ts) =>
    (readForeignKey? ts).map (column, ·)
  | _ => none

/-- Reads the definitions of a table: those of columns with these types, and after them only foreign
keys. -/
def readDefinitions? (d : Dialect) :
    List String → List String → Option (List ColumnDefinition × List (String × ForeignKey))
  | type :: types, text :: texts => do
    let column ← readColumn? d type text
    let (columns, keys) ← readDefinitions? d types texts
    return (column :: columns, keys)
  | _ :: _, [] => none
  | [], text :: texts => do
    let key ← readConstraint? d text
    let (columns, keys) ← readDefinitions? d [] texts
    return (columns, key :: keys)
  | [], [] => some ([], [])

theorem readKey_tokens (k : Option ForeignKey) :
    readKey? ((k.map ForeignKey.tokens).getD []) = some k := by
  cases k with
  | none => rfl
  | some k =>
    have hne : k.tokens ≠ [] := List.cons_ne_nil _ _
    show readKey? k.tokens = some (some k)
    rw [readKey?, if_neg hne, readForeignKey_tokens]
    rfl

/-- Words that are written or left out are read, if what follows does not begin like them. -/
theorem readWords_tokens {w : String} (words : List String) (b : Bool) {ts : List Token}
    (h : ts.head? ≠ some (.word w)) :
    readWords (w :: words) ((if b then (w :: words).map Token.word else []) ++ ts) = (b, ts) := by
  cases b with
  | true =>
    have hprefix : ((w :: words).map Token.word).isPrefixOf?
        ((w :: words).map Token.word ++ ts) = some ts :=
      List.isPrefixOf?_eq_some_iff_append_eq.2 rfl
    rw [if_pos rfl, readWords, hprefix]
  | false =>
    have hprefix : ((w :: words).map Token.word).isPrefixOf? ts = none := by
      cases ts with
      | nil => rfl
      | cons t ts =>
        have ht : Token.word w ≠ t := fun ht => h (by rw [ht]; rfl)
        simp [List.isPrefixOf?, ht]
    rw [if_neg Bool.false_ne_true, List.nil_append, readWords, hprefix]

theorem readAfterType_tokens (c : ColumnDefinition) :
    readAfterType? c.name c.tokens = some c := by
  obtain ⟨name, required, unique, key⟩ := c
  have hkey : ∀ w, w ≠ "REFERENCES" →
      ((key.map ForeignKey.tokens).getD []).head? ≠ some (Token.word w) := by
    intro w hw
    cases key with
    | none => simp
    | some k => simpa [ForeignKey.tokens] using hw.symm
  have hrest : ((if unique then [Token.word "UNIQUE"] else []) ++
      (key.map ForeignKey.tokens).getD []).head? ≠ some (.word "NOT") := by
    cases unique with
    | true => simp
    | false => exact hkey "NOT" (by decide)
  have hrequired := readWords_tokens ["NULL"] required hrest
  have hunique := readWords_tokens [] unique (hkey "UNIQUE" (by decide))
  simp only [List.map_cons, List.map_nil] at hrequired hunique
  simp only [readAfterType?, ColumnDefinition.tokens, hrequired, hunique, readKey_tokens]
  rfl

/-- **A definition is read back**, whatever the name and the type are. -/
theorem readColumn_of_lexes {d : Dialect} {c : ColumnDefinition} {rest : String}
    (h : Lexes d rest.toList c.tokens) (type : String) :
    readColumn? d type (d.quoteText c.name ++ " " ++ type ++ rest) = some c := by
  have htext : (d.quoteText c.name ++ " " ++ type ++ rest).toList = [d.quoteChar] ++
      (Dialect.doubled d.quoteChar c.name.toList ++
        d.quoteChar :: ((' ' :: type.toList) ++ rest.toList)) := by
    simp [Dialect.quoteText]
  have hblank : ((' ' :: type.toList) ++ rest.toList).head? ≠ some d.quoteChar := by
    cases d <;> simp [Dialect.quoteChar]
  have hprefix : ∀ cs rest : List Char, cs.isPrefixOf? (cs ++ rest) = some rest :=
    fun cs rest => List.isPrefixOf?_eq_some_iff_append_eq.2 rfl
  simp only [readColumn?, htext, hprefix, readName_doubled _ hblank, h.tokens_eq,
    Option.bind_eq_bind, Option.bind_some, String.ofList_toList]
  exact readAfterType_tokens c

example : readColumn? .postgres "INT" "\"picture\" INT UNIQUE REFERENCES \"media\"(\"id\")" =
    some ⟨"picture", false, true, some ⟨"media", "id", none, none⟩⟩ := by
  decide +kernel

theorem readDefinitions_constraints {d : Dialect} {texts : List String}
    {keys : List (String × ForeignKey)}
    (h : List.Forall₂ (fun text key => readConstraint? d text = some key) texts keys) :
    readDefinitions? d [] texts = some ([], keys) := by
  induction h with
  | nil => rfl
  | cons hkey _ ih =>
    rw [readDefinitions?, hkey, ih]
    rfl

/-! ## Texts -/

section
variable {d : Dialect}

theorem lexes_action (a : KeyAction) : Lexes d a.sql.toList (actionTokens a) := by
  have hword : ∀ w : String, isWord w.toList = true → Lexes d w.toList [.word w] :=
    fun w hw => (Spells.text hw).lexes
  cases a with
  | cascade => exact hword "CASCADE" rfl
  | setNull => exact .keyword (w := "SET") rfl (hword "NULL" rfl)
  | restrict => exact hword "RESTRICT" rfl
  | noAction => exact .keyword (w := "NO") rfl (hword "ACTION" rfl)
  | setDefault => exact .keyword (w := "SET") rfl (hword "DEFAULT" rfl)

/-- What happens on an event, in a text that begins by `s`. -/
theorem lexes_on {w s : String} (hw : isWord w.toList = true)
    (hs : s.toList = ' ' :: ("ON".toList ++ ' ' :: (w.toList ++ [' ']))) (a : Option KeyAction) :
    Lexes d ((a.map fun a => s ++ a.sql).getD "").toList (onTokens w a) := by
  cases a with
  | none => exact .nil
  | some a =>
    have htext : (s ++ a.sql).toList =
        ' ' :: ("ON".toList ++ ' ' :: (w.toList ++ ' ' :: a.sql.toList)) := by
      simp [hs]
    show Lexes d (s ++ a.sql).toList _
    rw [htext]
    exact .space (.keyword rfl (.keyword hw (lexes_action a)))

theorem ends_on {s : String} (hs : s.toList.head? = some ' ') (a : Option KeyAction) :
    Ends ((a.map fun a => s ++ a.sql).getD "").toList := by
  cases a with
  | none => exact .nil
  | some a =>
    obtain ⟨cs, hcs⟩ := List.head?_eq_some_iff.1 hs
    show Ends (s ++ a.sql).toList
    rw [String.toList_append, hcs]
    exact .space _

end

end TableService.Sql
