/-!
# Details that belong to the platform

A failure that comes from reading JSON or from the network is known here by its kind alone. Where a
message has room for the platform's own words, one of these placeholders stands for them.
-/

namespace AccessPortal
namespace Detail

/-- Stands for what makes a text unreadable as JSON. -/
def json : String := "<json>"

/-- Stands for what went wrong on the way to the auth service. -/
def transport : String := "<http>"

end Detail
end AccessPortal
