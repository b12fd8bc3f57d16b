import ConnectionConfig.Text.Blank
import ConnectionConfig.Text.Letters
import ConnectionConfig.Text.Split
import ConnectionConfig.Text.Decimal
import ConnectionConfig.Text.Quoted
import ConnectionConfig.Uri.Basic
import ConnectionConfig.PropertyMap.Basic
import ConnectionConfig.Property.Schema
import ConnectionConfig.Files.FileTree
import ConnectionConfig.Files.SearchFolders
import ConnectionConfig.Certificate.Pem
import ConnectionConfig.Certificate.Shape
import ConnectionConfig.Trust.Shipped
import ConnectionConfig.ServerAddress
import ConnectionConfig.ConnectionString.Entry
import ConnectionConfig.ConnectionString.Printer
import ConnectionConfig.PropertyMap.Setting
import ConnectionConfig.ClientProfile
import ConnectionConfig.ConnectionString.Datum
import ConnectionConfig.Proofs.Outcomes
import ConnectionConfig.Proofs.PropertyMap.Offers
import ConnectionConfig.Proofs.ConnectionString.Seeds
import ConnectionConfig.Proofs.PropertyMap.Purposes
import ConnectionConfig.Proofs.ConnectionString.LargerSeeds
import ConnectionConfig.Proofs.Text.Utf8
import ConnectionConfig.Proofs.Uri.Escapes
import ConnectionConfig.Proofs.Text.Cuts
import ConnectionConfig.Proofs.Uri.Authority
import ConnectionConfig.Proofs.ConnectionString.Printing
import ConnectionConfig.Proofs.ConnectionString.Stages
import ConnectionConfig.Proofs.PropertyMap.Views
import ConnectionConfig.Proofs.ConnectionString.Password
import ConnectionConfig.Proofs.Property.Canonical
import ConnectionConfig.Proofs.Uri.Hosts
import ConnectionConfig.Proofs.Uri.Segments
import ConnectionConfig.Proofs.ConnectionString.Options
import ConnectionConfig.Proofs.ServerAddress
import ConnectionConfig.Proofs.ClientProfile.Validated
import ConnectionConfig.Proofs.Trust.Files
import ConnectionConfig.Proofs.Trust.Composition
import ConnectionConfig.Proofs.Trust.Faults
import ConnectionConfig.Proofs.ConnectionString.PublicForm
import ConnectionConfig.Proofs.ConnectionString.PlainHosts
import ConnectionConfig.Proofs.Uri.Lengths
import ConnectionConfig.Proofs.ConnectionString.Weights
import ConnectionConfig.Proofs.ConnectionString.ReadBack
import ConnectionConfig.Proofs.ConnectionString.RoundTrip
import ConnectionConfig.Proofs.ConnectionString.Entries
import ConnectionConfig.Proofs.ConnectionString.Addresses
import ConnectionConfig.Proofs.ConnectionString.Disclosure
import ConnectionConfig.Proofs.ClientProfile.CanonicalValues
import ConnectionConfig.Proofs.PropertyMap.Changes
import ConnectionConfig.Proofs.PropertyMap.Order
import ConnectionConfig.Proofs.PropertyMap.History
import ConnectionConfig.Proofs.Uri.Parts
import ConnectionConfig.Proofs.ConnectionString.Recovery
import ConnectionConfig.Proofs.Trust.Acceptance
import ConnectionConfig.Proofs.ClientProfile.Readers
import ConnectionConfig.Proofs.ClientProfile.Servers
import ConnectionConfig.Proofs.ConnectionString.HostLists
import ConnectionConfig.Proofs.Uri.Ipv6
import ConnectionConfig.Proofs.HostGrammar
import ConnectionConfig.Proofs.ConnectionString.SingleHosts
import ConnectionConfig.Proofs.Files.Paths
import ConnectionConfig.Proofs.Files.HomeReferences
import ConnectionConfig.Proofs.ClientProfile.LoginTimeout
import ConnectionConfig.Proofs.ConnectionString.PrintedOptions
import ConnectionConfig.Proofs.ConnectionString.Faults
import ConnectionConfig.Proofs.Text.Numerals
import ConnectionConfig.Proofs.Files.Search
import ConnectionConfig.Proofs.Files.AbsolutePaths
import ConnectionConfig.Proofs.AddressText
import ConnectionConfig.Proofs.Property.CanonicalForms
