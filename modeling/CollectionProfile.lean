import CollectionProfile.Delivery.Csv
import CollectionProfile.Delivery.SchemaDocument
import CollectionProfile.Locale
import CollectionProfile.Mapping.Combined
import CollectionProfile.Markup.Character
import CollectionProfile.Markup.Name
import CollectionProfile.Markup.Scan
import CollectionProfile.Markup.Token
import CollectionProfile.Markup.Growth
import CollectionProfile.Markup.Content
import CollectionProfile.Markup.LineEnd
import CollectionProfile.Markup.Namespace
import CollectionProfile.Markup.Document
import CollectionProfile.Markup.Place
import CollectionProfile.Profile.Assembly
import CollectionProfile.Profile.ElementSet
import CollectionProfile.Profile.MetadataElement
import CollectionProfile.Profile.Reading
import CollectionProfile.Json.Basic
import CollectionProfile.Schema.Interchange
import CollectionProfile.Text.Pattern.Reader
import CollectionProfile.Log.Directive
import CollectionProfile.Log.Filter
import CollectionProfile.Log.Line
import CollectionProfile.Delivery.Artifact
import CollectionProfile.Session
import CollectionProfile.Grid.Basic
import CollectionProfile.Log.Delivering
import CollectionProfile.Command.Arguments
import CollectionProfile.Command.Disk
import CollectionProfile.Command.Host
import CollectionProfile.Command.Invocation
import CollectionProfile.Command.Logger
import CollectionProfile.Command.Product
import CollectionProfile.Command.Run
import CollectionProfile.Main
import CollectionProfile.Proofs.Mapping.Relations
import CollectionProfile.Proofs.Mapping.Single
import CollectionProfile.Proofs.Schema.Field
import CollectionProfile.Proofs.Schema.Tables
import CollectionProfile.Proofs.Schema.Table
import CollectionProfile.Proofs.Profile.Assembly
import CollectionProfile.Proofs.Markup.Place
import CollectionProfile.Proofs.Profile.Declared
import CollectionProfile.Proofs.Profile.WellFormed
import CollectionProfile.Proofs.Mapping.Combined
import CollectionProfile.Proofs.Delivery.Csv
import CollectionProfile.Proofs.Markup.Escape
import CollectionProfile.Proofs.Markup.Tag
import CollectionProfile.Proofs.Markup.RoundTrip
import CollectionProfile.Proofs.Delivery.SchemaDocument
import CollectionProfile.Proofs.Session
import CollectionProfile.Proofs.Delivery.Agreement
import CollectionProfile.Proofs.Profile.Exchange
import CollectionProfile.Proofs.Command.Disk
import CollectionProfile.Proofs.Command.Directories
import CollectionProfile.Proofs.Command.Delivery
import CollectionProfile.Proofs.Command.Outcome
import CollectionProfile.Proofs.Command.Path
import CollectionProfile.Proofs.Command.Product
import CollectionProfile.Proofs.Command.Run
import CollectionProfile.Proofs.Delivery.Distinct
import CollectionProfile.Proofs.Locale
import CollectionProfile.Proofs.Mapping.Groups
import CollectionProfile.Proofs.Profile.Labels
import CollectionProfile.Proofs.Profile.Vocabulary
import CollectionProfile.Proofs.Markup.Ownership
import CollectionProfile.Proofs.Profile.Merging
import CollectionProfile.Proofs.Profile.Remarks
import CollectionProfile.Proofs.Mapping.Related
import CollectionProfile.Proofs.Markup.Remark
import CollectionProfile.Proofs.Markup.Address
import CollectionProfile.Proofs.Text.Occurrence
import CollectionProfile.Proofs.Schema.Relationship
import CollectionProfile.Proofs.Mapping.Chain
import CollectionProfile.Proofs.Mapping.EntityName
