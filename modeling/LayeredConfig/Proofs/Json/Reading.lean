/-
Reading a JSON text gives the value that the text spells.  The text is taken
apart into the tokens of the value, whatever blanks stand between them, and
these lead the reader from the start of the value to its end.  So no text
spells two values.
-/
import LayeredConfig.Json.Reader
import LayeredConfig.Proofs.Json.Lexing

namespace LayeredConfig.Json

mutual

/-- The tokens that a value is written with. -/
def tokens : Json → List Token
  | null => [.word "null".toList]
  | bool true => [.word "true".toList]
  | bool false => [.word "false".toList]
  | number spelling => [.number spelling]
  | string text => [.string text]
  | array items => .punctuation '[' :: (itemTokens items ++ [.punctuation ']'])
  | object members => .punctuation '{' :: (memberTokens members ++ [.punctuation '}'])

def itemTokens : List Json → List Token
  | [] => []
  | [item] => item.tokens
  | item :: rest => item.tokens ++ .punctuation ',' :: itemTokens rest

def memberTokens : List (Option String × Json) → List Token
  | [] => []
  | [(name, value)] => .string name :: .punctuation ':' :: value.tokens
  | (name, value) :: rest =>
      .string name :: .punctuation ':' :: (value.tokens ++ .punctuation ',' :: memberTokens rest)

end

section Tokens

variable {read : List Token} {cs gap rest : List Char}

theorem isSeparator_iff {c : Char} : isSeparator c = true ↔ c ∈ [' ', '\t', '\n', '\r'] := by
  simp [isSeparator, or_assoc]

theorem tokensAfter_gap (h : IsGap gap) (read : List Token) (rest : List Char) :
    tokensAfter read (gap ++ rest) = tokensAfter read rest := by
  induction gap with
  | nil => rfl
  | cons c gap ih =>
      obtain ⟨hc, hgap⟩ := List.forall_mem_cons.1 h
      rw [List.cons_append, tokensAfter, if_pos (isSeparator_iff.2 hc), ih hgap]

/-- No token starts with a blank. -/
theorem readToken_separator {c : Char} (h : isSeparator c = true) (rest : List Char) :
    readToken (c :: rest) = none := by
  have hc : c = ' ' ∨ c = '\t' ∨ c = '\n' ∨ c = '\r' := by simpa using isSeparator_iff.1 h
  rcases hc with rfl | rfl | rfl | rfl
  · rfl
  · rfl
  · rfl
  · rfl

theorem tokensAfter_token {token : Token} (h : readToken cs = some (token, rest))
    (read : List Token) : tokensAfter read cs = tokensAfter (token :: read) rest := by
  cases cs with
  | nil => contradiction
  | cons c after =>
      have hc : isSeparator c = false := by
        cases hseparator : isSeparator c with
        | false => rfl
        | true =>
            rw [readToken_separator hseparator] at h
            contradiction
      rw [tokensAfter, hc, if_neg Bool.false_ne_true]
      split
      · next heq =>
          obtain ⟨rfl, rfl⟩ := Prod.mk.inj (Option.some.inj (h.symm.trans heq))
          rfl
      · next heq =>
          rw [h] at heq
          contradiction

theorem follows_append_gap (h : IsGap gap) (hrest : Follows rest) : Follows (gap ++ rest) := by
  cases gap with
  | nil => exact hrest
  | cons c gap =>
      intro d hd
      obtain rfl : c = d := by simpa using hd
      exact List.mem_append_left [',', ']', '}'] (h c List.mem_cons_self)

theorem follows_cons {c : Char} (h : c ∈ [',', ']', '}']) (rest : List Char) :
    Follows (c :: rest) := by
  intro d hd
  obtain rfl : c = d := by simpa using hd
  exact List.mem_append_right [' ', '\t', '\n', '\r'] h

theorem SpellsItems.ne_nil {items : List Json} (h : SpellsItems cs items) : items ≠ [] := by
  cases h with
  | last _ => exact List.cons_ne_nil _ _
  | more _ _ => exact List.cons_ne_nil _ _

theorem SpellsMembers.ne_nil {members : List (Option String × Json)}
    (h : SpellsMembers cs members) : members ≠ [] := by
  cases h with
  | last _ => exact List.cons_ne_nil _ _
  | more _ _ => exact List.cons_ne_nil _ _

theorem itemTokens_cons {items : List Json} (h : items ≠ []) (item : Json) :
    itemTokens (item :: items) = item.tokens ++ .punctuation ',' :: itemTokens items := by
  obtain ⟨head, tail, rfl⟩ := List.exists_cons_of_ne_nil h
  rfl

theorem memberTokens_cons {members : List (Option String × Json)} (h : members ≠ [])
    (member : Option String × Json) :
    memberTokens (member :: members) =
      memberTokens [member] ++ .punctuation ',' :: memberTokens members := by
  obtain ⟨head, tail, rfl⟩ := List.exists_cons_of_ne_nil h
  rfl

end Tokens

section Lexing

mutual

/-- The text of a value is taken apart into its tokens. -/
theorem Spells.tokensAfter {cs : List Char} {value : Json} :
    Spells cs value → ∀ (read : List Token) {rest : List Char}, Follows rest →
      Json.tokensAfter read (cs ++ rest) = Json.tokensAfter (value.tokens.reverse ++ read) rest
  | .padded hbefore hvalue hafter, read, rest, hrest => by
      rw [List.append_assoc, List.append_assoc, tokensAfter_gap hbefore,
        hvalue.tokensAfter read (follows_append_gap hafter hrest), tokensAfter_gap hafter]

theorem SpellsBare.tokensAfter {cs : List Char} {value : Json} :
    SpellsBare cs value → ∀ (read : List Token) {rest : List Char}, Follows rest →
      Json.tokensAfter read (cs ++ rest) = Json.tokensAfter (value.tokens.reverse ++ read) rest
  | .null, read, rest, _ => tokensAfter_token (readToken_word (by decide) rest) read
  | .true, read, rest, _ => tokensAfter_token (readToken_word (by decide) rest) read
  | .false, read, rest, _ => tokensAfter_token (readToken_word (by decide) rest) read
  | .number hnumber, read, rest, hrest => tokensAfter_token (readToken_number hnumber hrest) read
  | .string hstring, read, rest, _ => tokensAfter_token (readToken_string hstring rest) read
  | .emptyArray hgap, read, rest, _ => by
      rw [List.cons_append, List.append_assoc, List.singleton_append,
        tokensAfter_token (readToken_punctuation (by decide) _), tokensAfter_gap hgap,
        tokensAfter_token (readToken_punctuation (by decide) _)]
      rfl
  | .array hitems, read, rest, _ => by
      rw [List.cons_append, List.append_assoc, List.singleton_append,
        tokensAfter_token (readToken_punctuation (by decide) _),
        hitems.tokensAfter _ (follows_cons (by decide) rest),
        tokensAfter_token (readToken_punctuation (by decide) _)]
      simp [tokens]
  | .emptyObject hgap, read, rest, _ => by
      rw [List.cons_append, List.append_assoc, List.singleton_append,
        tokensAfter_token (readToken_punctuation (by decide) _), tokensAfter_gap hgap,
        tokensAfter_token (readToken_punctuation (by decide) _)]
      rfl
  | .object hmembers, read, rest, _ => by
      rw [List.cons_append, List.append_assoc, List.singleton_append,
        tokensAfter_token (readToken_punctuation (by decide) _),
        hmembers.tokensAfter _ (follows_cons (by decide) rest),
        tokensAfter_token (readToken_punctuation (by decide) _)]
      simp [tokens]

theorem SpellsItems.tokensAfter {cs : List Char} {items : List Json} :
    SpellsItems cs items → ∀ (read : List Token) {rest : List Char}, Follows rest →
      Json.tokensAfter read (cs ++ rest) =
        Json.tokensAfter ((itemTokens items).reverse ++ read) rest
  | .last hitem, read, rest, hrest => hitem.tokensAfter read hrest
  | .more hitem hitems, read, rest, hrest => by
      rw [List.append_assoc, List.cons_append, hitem.tokensAfter read (follows_cons (by decide) _),
        tokensAfter_token (readToken_punctuation (by decide) _), hitems.tokensAfter _ hrest,
        itemTokens_cons hitems.ne_nil]
      simp

theorem SpellsMember.tokensAfter {cs : List Char} {member : Option String × Json} :
    SpellsMember cs member → ∀ (read : List Token) {rest : List Char}, Follows rest →
      Json.tokensAfter read (cs ++ rest) =
        Json.tokensAfter ((memberTokens [member]).reverse ++ read) rest
  | .named hbefore hname hafter hvalue, read, rest, hrest => by
      simp only [List.append_assoc, List.cons_append]
      rw [tokensAfter_gap hbefore, tokensAfter_token (readToken_string hname _),
        tokensAfter_gap hafter, tokensAfter_token (readToken_punctuation (by decide) _),
        hvalue.tokensAfter _ hrest]
      simp [memberTokens]

theorem SpellsMembers.tokensAfter {cs : List Char} {members : List (Option String × Json)} :
    SpellsMembers cs members → ∀ (read : List Token) {rest : List Char}, Follows rest →
      Json.tokensAfter read (cs ++ rest) =
        Json.tokensAfter ((memberTokens members).reverse ++ read) rest
  | .last hmember, read, rest, hrest => hmember.tokensAfter read hrest
  | .more hmember hmembers, read, rest, hrest => by
      rw [List.append_assoc, List.cons_append,
        hmember.tokensAfter read (follows_cons (by decide) _),
        tokensAfter_token (readToken_punctuation (by decide) _), hmembers.tokensAfter _ hrest,
        memberTokens_cons hmembers.ne_nil]
      simp

end

end Lexing

section Reader

open Reading

/-- A value does not start as the end of an array does. -/
theorem exists_tokens_cons (value : Json) :
    ∃ token rest, value.tokens = token :: rest ∧ token ≠ .punctuation ']' := by
  cases value with
  | null => exact ⟨_, _, rfl, by decide⟩
  | bool b => cases b <;> exact ⟨_, _, rfl, by decide⟩
  | number spelling => exact ⟨_, _, rfl, nofun⟩
  | string text => exact ⟨_, _, rfl, nofun⟩
  | array items => exact ⟨_, _, rfl, by decide⟩
  | object members => exact ⟨_, _, rfl, by decide⟩

theorem exists_itemTokens_cons {items : List Json} (h : items ≠ []) :
    ∃ token rest, itemTokens items = token :: rest ∧ token ≠ .punctuation ']' := by
  obtain ⟨item, others, rfl⟩ := List.exists_cons_of_ne_nil h
  obtain ⟨token, rest, htokens, hne⟩ := exists_tokens_cons item
  by_cases hothers : others = []
  · subst hothers
    exact ⟨token, rest, htokens, hne⟩
  · rw [itemTokens_cons hothers, htokens]
    exact ⟨token, _, rfl, hne⟩

theorem foldlM_single (r : Reading) (token : Token) : [token].foldlM step r = step r token :=
  bind_pure (step r token)

theorem step_endArray (done : List Json) (stack : List Frame) :
    step ⟨.array done :: stack, .separator⟩ (.punctuation ']') =
      close stack (.array done.reverse) := rfl

theorem step_endObject (done : List (Option String × Json)) (stack : List Frame) :
    step ⟨.object done :: stack, .separator⟩ (.punctuation '}') =
      close stack (.object done.reverse) := rfl

/-- Behind the bracket that opens an array, items are read as anywhere. -/
theorem foldlM_itemOrEnd {items : List Json} (h : items ≠ []) (more : List Token)
    (stack : List Frame) :
    (itemTokens items ++ more).foldlM step ⟨stack, .itemOrEnd⟩ =
      (itemTokens items ++ more).foldlM step ⟨stack, .value⟩ := by
  obtain ⟨token, rest, htokens, hne⟩ := exists_itemTokens_cons h
  rw [htokens, List.cons_append, List.foldlM_cons, List.foldlM_cons]
  congr 1
  exact if_neg hne

theorem foldlM_nameOrEnd {members : List (Option String × Json)} (h : members ≠ [])
    (more : List Token) (stack : List Frame) :
    (memberTokens members ++ more).foldlM step ⟨stack, .nameOrEnd⟩ =
      (memberTokens members ++ more).foldlM step ⟨stack, .name⟩ := by
  obtain ⟨member, others, rfl⟩ := List.exists_cons_of_ne_nil h
  cases others with
  | nil => rfl
  | cons next rest => rfl

mutual

/-- The tokens of a value close it, whatever is open around it. -/
theorem foldlM_tokens : ∀ (value : Json) (stack : List Frame),
    value.tokens.foldlM step ⟨stack, .value⟩ = close stack value
  | .null, stack => foldlM_single _ _
  | .bool true, stack => foldlM_single _ _
  | .bool false, stack => foldlM_single _ _
  | .number spelling, stack => foldlM_single _ _
  | .string text, stack => foldlM_single _ _
  | .array [], stack => foldlM_single ⟨.array [] :: stack, .itemOrEnd⟩ _
  | .array (item :: items), stack => by
      have hitems := foldlM_itemTokens (item :: items) (List.cons_ne_nil _ _) [] stack
      rw [List.append_nil] at hitems
      rw [tokens, List.foldlM_cons]
      change (itemTokens (item :: items) ++ [Token.punctuation ']']).foldlM step
        ⟨.array [] :: stack, .itemOrEnd⟩ = _
      rw [foldlM_itemOrEnd (List.cons_ne_nil _ _), List.foldlM_append, hitems,
        Option.bind_eq_bind, Option.bind_some, foldlM_single, step_endArray,
        List.reverse_reverse]
  | .object [], stack => foldlM_single ⟨.object [] :: stack, .nameOrEnd⟩ _
  | .object (member :: members), stack => by
      have hmembers := foldlM_memberTokens (member :: members) (List.cons_ne_nil _ _) [] stack
      rw [List.append_nil] at hmembers
      rw [tokens, List.foldlM_cons]
      change (memberTokens (member :: members) ++ [Token.punctuation '}']).foldlM step
        ⟨.object [] :: stack, .nameOrEnd⟩ = _
      rw [foldlM_nameOrEnd (List.cons_ne_nil _ _), List.foldlM_append, hmembers,
        Option.bind_eq_bind, Option.bind_some, foldlM_single, step_endObject,
        List.reverse_reverse]

theorem foldlM_itemTokens : ∀ (items : List Json), items ≠ [] →
    ∀ (done : List Json) (stack : List Frame),
      (itemTokens items).foldlM step ⟨.array done :: stack, .value⟩ =
        some ⟨.array (items.reverse ++ done) :: stack, .separator⟩
  | [], h, _, _ => absurd rfl h
  | [item], _, done, stack => foldlM_tokens item (.array done :: stack)
  | item :: next :: rest, _, done, stack => by
      have hitem := foldlM_tokens item (.array done :: stack)
      have hrest := foldlM_itemTokens (next :: rest) (List.cons_ne_nil _ _) (item :: done) stack
      rw [itemTokens_cons (List.cons_ne_nil _ _), List.foldlM_append, hitem, close,
        Option.bind_eq_bind, Option.bind_some, List.foldlM_cons]
      change (itemTokens (next :: rest)).foldlM step ⟨.array (item :: done) :: stack, .value⟩ = _
      rw [hrest]
      simp

theorem foldlM_memberTokens : ∀ (members : List (Option String × Json)), members ≠ [] →
    ∀ (done : List (Option String × Json)) (stack : List Frame),
      (memberTokens members).foldlM step ⟨.object done :: stack, .name⟩ =
        some ⟨.object (members.reverse ++ done) :: stack, .separator⟩
  | [], h, _, _ => absurd rfl h
  | [(name, value)], _, done, stack => foldlM_tokens value (.member name done :: stack)
  | (name, value) :: next :: rest, _, done, stack => by
      have hvalue := foldlM_tokens value (.member name done :: stack)
      have hrest := foldlM_memberTokens (next :: rest) (List.cons_ne_nil _ _)
        ((name, value) :: done) stack
      rw [memberTokens_cons (List.cons_ne_nil _ _), List.foldlM_append]
      change (value.tokens.foldlM step ⟨.member name done :: stack, .value⟩ >>= _) = _
      rw [hvalue, close, Option.bind_eq_bind, Option.bind_some, List.foldlM_cons]
      change (memberTokens (next :: rest)).foldlM step
        ⟨.object ((name, value) :: done) :: stack, .name⟩ = _
      rw [hrest]
      simp

end

/-- A text is read as the value that it spells. -/
theorem parse?_of_spells {text : String} {value : Json} (h : Spells text.toList value) :
    parse? text = some value := by
  have hend : Follows [] := nofun
  have htokens := h.tokensAfter [] hend
  rw [List.append_nil, List.append_nil] at htokens
  have hread : tokens? text = some value.tokens := by
    rw [tokens?, htokens, Json.tokensAfter, List.reverse_reverse]
  rw [parse?, hread, Option.bind_eq_bind, Option.bind_some]
  change (value.tokens.foldlM step ⟨[], .value⟩).bind _ = _
  rw [foldlM_tokens]
  rfl

/-- No text spells two values. -/
theorem Spells.unique {cs : List Char} {value other : Json} (h : Spells cs value)
    (h' : Spells cs other) : value = other := by
  rw [← String.toList_ofList (l := cs)] at h h'
  exact Option.some.inj ((parse?_of_spells h).symm.trans (parse?_of_spells h'))

end Reader

end LayeredConfig.Json
