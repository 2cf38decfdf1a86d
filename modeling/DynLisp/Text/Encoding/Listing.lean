/-!
Names of encodings. Case does not count in them, nor does it matter which characters keep their
words apart.
-/

namespace DynLisp

/-- Lower case, with one underscore for each run of other characters between letters and digits; dots
are kept. -/
def canonicalName (given : String) : String :=
  let kept (c : Char) : Bool := c.toNat < 128 && (c.isAlphanum || c == '.')
  let step (acc : List Char × Bool) (c : Char) : List Char × Bool :=
    if kept c then
      (c.toLower :: (if acc.2 && !acc.1.isEmpty then '_' :: acc.1 else acc.1), false)
    else (acc.1, true)
  .ofList (given.toList.foldl step ([], false)).1.reverse

/-- Something known by a name of its own and by aliases, all of them in canonical form. -/
structure Listing (α : Type) where
  name : String
  aliases : List String
  entry : α
  deriving Repr

namespace Listing

def map {α β : Type} (f : α → β) (l : Listing α) : Listing β := ⟨l.name, l.aliases, f l.entry⟩

/-- The entry of an alias, where a dot may stand for an underscore, or else of a name, where it may
not. -/
def find? {α : Type} (listings : List (Listing α)) (given : String) : Option α :=
  let name := canonicalName given
  let undotted := String.ofList (name.toList.map fun c => if c == '.' then '_' else c)
  let found := (listings.find? (·.aliases.contains name)).or <|
    (listings.find? (·.aliases.contains undotted)).or <| listings.find? (·.name == name)
  found.map Listing.entry

end Listing

end DynLisp
