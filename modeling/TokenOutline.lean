import TokenOutline.Proofs.Server.Delivery
import TokenOutline.Proofs.Grammar.Caption
import TokenOutline.Proofs.Grammar.Vocabulary
import TokenOutline.Proofs.Decode.Settings
import TokenOutline.Proofs.Outline.Changes
import TokenOutline.Proofs.Outline.Vocabulary
import TokenOutline.Proofs.Outline.Sequential
import TokenOutline.Proofs.Outline.Contact
import TokenOutline.Proofs.Outline.Isolation
import TokenOutline.Proofs.Server.Message
import TokenOutline.Proofs.Server.Session
import TokenOutline.Proofs.Server.Documents
import TokenOutline.Proofs.Server.Announcements
import TokenOutline.Proofs.Server.Listing
import TokenOutline.Proofs.Decode.Format
import TokenOutline.Proofs.Decode.Codec
import TokenOutline.Proofs.Editor.Item
import TokenOutline.Proofs.Outline.Settings
import TokenOutline.Proofs.Server.Settings
import TokenOutline.Proofs.Url.File
