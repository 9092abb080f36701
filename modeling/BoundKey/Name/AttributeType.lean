import BoundKey.Der.Identifier

set_option autoImplicit false

/-!
The kinds of attributes in distinguished names, with the names by which they are
known. Names are read in any case; of several names of one kind the shortest is
the one that is written.

The table holds what directories say of organizations, of persons and of the
domains and documents that belong to them. A registry of identifiers knows more
names than these; a kind that has its name only there is not known by it here,
and a text has to give its number.
-/

namespace BoundKey.AttributeType

open Der (Identifier)

def directory (number : Nat) : Identifier :=
  ⟨[2, 5, 4, number]⟩

/-- An identifier below the one for persons, documents and domains. -/
def pilot (number : Nat) : Identifier :=
  ⟨[0, 9, 2342, 19200300, 100, 1, number]⟩

/-- An identifier below the one for the members of an organization. -/
def staff (number : Nat) : Identifier :=
  ⟨[2, 16, 840, 1, 113730, 3, 1, number]⟩

def country : Identifier := directory 6

def serialNumber : Identifier := directory 5

def domainComponent : Identifier := ⟨[0, 9, 2342, 19200300, 100, 1, 25]⟩

def names : List (Identifier × String) :=
  [(directory 3, "cn"), (directory 3, "commonName"),
    (directory 4, "sn"), (directory 4, "surname"),
    (serialNumber, "serialNumber"),
    (country, "c"), (country, "countryName"),
    (directory 7, "l"), (directory 7, "localityName"),
    (directory 8, "st"), (directory 8, "stateOrProvinceName"),
    (directory 9, "street"), (directory 9, "streetAddress"),
    (directory 10, "o"), (directory 10, "organizationName"),
    (directory 11, "ou"), (directory 11, "organizationalUnitName"),
    (directory 12, "title"), (directory 13, "description"),
    (directory 14, "searchGuide"), (directory 15, "businessCategory"),
    (directory 16, "postalAddress"), (directory 17, "postalCode"),
    (directory 18, "postOfficeBox"),
    (directory 19, "physicalDeliveryOfficeName"),
    (directory 20, "telephoneNumber"), (directory 21, "telexNumber"),
    (directory 22, "teletexTerminalIdentifier"),
    (directory 23, "facsimileTelephoneNumber"),
    (directory 24, "x121Address"), (directory 25, "internationalISDNNumber"),
    (directory 26, "registeredAddress"),
    (directory 27, "destinationIndicator"),
    (directory 28, "preferredDeliveryMethod"),
    (directory 31, "member"), (directory 32, "owner"),
    (directory 33, "roleOccupant"), (directory 34, "seeAlso"),
    (directory 35, "userPassword"), (directory 41, "name"),
    (directory 42, "givenName"), (directory 43, "initials"),
    (directory 44, "generationQualifier"),
    (directory 45, "x500UniqueIdentifier"), (directory 46, "dnQualifier"),
    (directory 47, "enhancedSearchGuide"),
    (directory 49, "distinguishedName"), (directory 50, "uniqueMember"),
    (directory 51, "houseIdentifier"), (directory 65, "pseudonym"),
    (domainComponent, "dc"), (domainComponent, "domainComponent"),
    (pilot 1, "uid"), (pilot 1, "userId"),
    (⟨[1, 2, 840, 113549, 1, 9, 1]⟩, "email"),
    (⟨[1, 2, 840, 113549, 1, 9, 1]⟩, "emailAddress"),
    (pilot 3, "mail"), (pilot 3, "RFC822Mailbox"), (pilot 4, "info"),
    (pilot 5, "drink"), (pilot 5, "favouriteDrink"),
    (pilot 6, "roomNumber"), (pilot 7, "photo"), (pilot 8, "userClass"),
    (pilot 9, "host"), (pilot 10, "manager"),
    (pilot 11, "documentIdentifier"), (pilot 12, "documentTitle"),
    (pilot 13, "documentVersion"), (pilot 14, "documentAuthor"),
    (pilot 15, "documentLocation"), (pilot 20, "homePhone"),
    (pilot 21, "secretary"), (pilot 37, "associatedDomain"),
    (pilot 38, "associatedName"), (pilot 39, "homePostalAddress"),
    (pilot 40, "personalTitle"),
    (pilot 41, "mobile"), (pilot 41, "mobileTelephoneNumber"),
    (pilot 42, "pager"), (pilot 42, "pagerTelephoneNumber"),
    (pilot 43, "co"), (pilot 43, "friendlyCountryName"),
    (pilot 44, "uniqueIdentifier"), (pilot 45, "organizationalStatus"),
    (pilot 48, "buildingName"), (pilot 55, "audio"),
    (pilot 56, "documentPublisher"), (pilot 60, "jpegPhoto"),
    (staff 1, "carLicense"), (staff 2, "departmentNumber"),
    (staff 3, "employeeNumber"), (staff 4, "employeeType"),
    (staff 39, "preferredLanguage"), (staff 40, "userSMIMECertificate"),
    (staff 216, "userPKCS12"), (staff 241, "displayName"),
    (⟨[1, 3, 6, 1, 4, 1, 250, 1, 57]⟩, "labeledURI")]

def lower (text : String) : List Char :=
  text.toList.map Char.toLower

def ofName? (name : String) : Option Identifier :=
  (names.find? fun (_, known) => lower known == lower name).map Prod.fst

def shortName? (kind : Identifier) : Option String :=
  let known := (names.filter fun (other, _) => other == kind).map Prod.snd
  (known.mergeSort fun left right => left.length ≤ right.length).head?.map
    fun name =>
    String.ofList (name.toList.map Char.toUpper)

end BoundKey.AttributeType
