import RdfStore.Text.Percent
import RdfStore.Url.Label

/-!
# Domains

The text of a domain is read in its normal spelling: small letters, composed characters, a point
between labels. Every label must be allowed, and in a domain with letters that are written from
right to left every label must keep its look. What is sent is the domain in ASCII.
-/

namespace RdfStore.Url

def forbiddenInDomain (c : Char) : Bool :=
  c.toNat < 32 || c.toNat = 127 ||
    c ∈ [' ', '%', '#', '/', ':', '<', '>', '?', '@', '[', '\\', ']', '^', '|']

/-- The labels of a domain, each in its own characters, from the text of the domain. -/
def domainLabels? (text : List Char) : Option (List (List Char)) := do
  let spelled := (← text.mapM spellChar?).flatten
  let composed := if spelled.all fun c => c.toNat < 128 then spelled else Text.compose spelled
  if composed.any forbiddenInDomain then none
  else
    let labels ← (Text.pieces '.' composed).mapM readLabel?
    if labels.any (fun label => label.any Text.turnsDirection) &&
        !labels.all Text.keepsDirection then none
    else return labels

/-- The ASCII form of a domain, from its text with percent-encoded parts. -/
def domain? (cs : List Char) : Option (List Char) := do
  let labels ← domainLabels? (← Text.decodeUtf8? (Text.percentDecode cs))
  return ".".toList.intercalate (labels.map labelText)

end RdfStore.Url
