import Audience.Digest.Sha256
import Audience.Filter.Campaign
import Audience.Filter.Spec

/-!
Keys of filter requests. The key is a digest of a text that holds the table, the filters, the campaign and
the send mode. The filters are put in order first, by column, group and value, so that a request has the same
key in whatever order its filters were chosen.
-/

namespace Audience

namespace FilterSpec

/-- The texts that a filter is ordered by. -/
def sortKey (f : FilterSpec) : String × String × String := (f.column, f.group, f.value.text)

/-- The order of the sort keys: part by part, each by its code points. -/
def keyLE (a b : String × String × String) : Bool :=
  if a.1 = b.1 then if a.2.1 = b.2.1 then a.2.2 ≤ b.2.2 else a.2.1 < b.2.1 else a.1 < b.1

/-- The filters in order. -/
def sorted (filters : List FilterSpec) : List FilterSpec :=
  filters.mergeSort fun f g => keyLE f.sortKey g.sortKey

end FilterSpec

namespace CacheKey

/-- How many hexadecimal digits of the digest a key has. -/
def length : Nat := 32

/-- The text that the key is a digest of. -/
def material (table : String) (filters : List FilterSpec) (campaign : CampaignKind) (mode : SendMode) :
    String :=
  Json.orderedText [
    ("table", .str table),
    ("filters", .arr ((FilterSpec.sorted filters).map FilterSpec.toJson)),
    ("campaign", .str campaign.name),
    ("mode", .str mode.name)]

end CacheKey

/-- The key of a request. -/
def cacheKey (table : String) (filters : List FilterSpec) (campaign : CampaignKind) (mode : SendMode) :
    String :=
  String.ofList ((Sha256.hexDigest (CacheKey.material table filters campaign mode)).take CacheKey.length)

end Audience
