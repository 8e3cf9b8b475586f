import ByteInspector.CommandLine.Scan

/-! # The grammar of the command line

An accepted command line is a list of items, each in one of its spellings, and possibly two dashes
with values behind them. Apart from the two items of a bundle, the order is free. What an item says
does not depend on its spelling, and the settings are made of the items alone.
-/
namespace ByteInspector.CommandLine

inductive Item where
  | hex (value : String)
  | policy (value : String)
  | format (value : String)
  | verbose
  deriving DecidableEq, Repr

namespace Item

def parameter : Item → Parameter
  | .hex _ => .hex
  | .policy _ => .policy
  | .format _ => .format
  | .verbose => .verbose

def apply (s : Settings) : Item → Settings
  | .hex value => { s with hex := some value }
  | .policy value => { s with policy := value }
  | .format value => { s with format := value }
  | .verbose => { s with verbose := true }

end Item

def namedOptions : List (String × (String → Item)) :=
  [("policy", .policy), ("format", .format)]

/-- A value that can stand by itself: it does not open with a dash, or is one. -/
def IsPlain (value : String) : Prop := value.toList.head? ≠ some '-' ∨ value = "-"

/-- The letters behind one dash, and the arguments that follow them. -/
inductive Letters : List Char → List String → List Item → Prop where
  | verbose : Letters ['v'] [] [.verbose]
  | attached {c : Char} {cs : List Char} :
      c ≠ '=' → Letters ('p' :: c :: cs) [] [.policy (String.ofList (c :: cs))]
  | equals {cs : List Char} : Letters ('p' :: '=' :: cs) [] [.policy (String.ofList cs)]
  | separate {value : String} : IsPlain value → Letters ['p'] [value] [.policy value]
  | bundled {cs : List Char} {rest : List String} {items : List Item} :
      Letters cs rest items → Letters ('v' :: cs) rest (.verbose :: items)

inductive Spelling : List String → List Item → Prop where
  | hex {value : String} : IsPlain value → Spelling [value] [.hex value]
  | attached {name value : String} {item : String → Item} :
      (name, item) ∈ namedOptions → Spelling ["--" ++ name ++ "=" ++ value] [item value]
  | separate {name value : String} {item : String → Item} :
      (name, item) ∈ namedOptions → IsPlain value → Spelling ["--" ++ name, value] [item value]
  | verbose : Spelling ["--verbose"] [.verbose]
  | letters {cs : List Char} {rest : List String} {items : List Item} :
      Letters cs rest items → Spelling (String.ofList ('-' :: cs) :: rest) items

/-- A command line and what it says. -/
inductive Derives : List String → List Item → Prop where
  | nil : Derives [] []
  | spelling {arguments more : List String} {items others : List Item} :
      Spelling arguments items → Derives more others →
        Derives (arguments ++ more) (items ++ others)
  | trailing (values : List String) : Derives ("--" :: values) (values.map .hex)

def Distinct (items : List Item) : Prop := (items.map Item.parameter).Nodup

def settingsOf (items : List Item) : Settings := items.foldl Item.apply {}

theorem settingsOf_append (items others : List Item) :
    settingsOf (items ++ others) = others.foldl Item.apply (settingsOf items) := by
  simp [settingsOf]

end ByteInspector.CommandLine
